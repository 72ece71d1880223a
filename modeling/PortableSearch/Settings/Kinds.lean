import PortableSearch.Shape.Catalog

/-! The kind of connection settings. -/
namespace PortableSearch.Settings
open PortableSearch.Shape

def settingsType : RecordType FieldType :=
  ⟨"SearchSettings", [.preset "es_host" .text (.str "http://localhost:9200"),
    .optional "index" .text, .preset "document_type" .text (.str "_doc"),
    .preset "scroll_keep_alive" .text (.str "1m"), .preset "time_zone" .text (.str "UTC"),
    .preset "page_size" .integer (.int 50),
    .preset "request_timeout" .double (.float 30.0),
    .preset "verify_certs" .flag (.bool true)], false⟩

end PortableSearch.Settings
