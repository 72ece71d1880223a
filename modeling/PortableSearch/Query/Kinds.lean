import PortableSearch.Shape.Catalog

/-! The kinds of query records. -/
namespace PortableSearch.Query
open PortableSearch.Shape

/-- What a plain object stands for where a query is expected. -/
def plainType : RecordType FieldType := ⟨"Query", [], false⟩

def envelopeType : RecordType FieldType :=
  ⟨"Envelope", ["min_x", "max_x", "min_y", "max_y"].map fun n => .required n .double,
    false⟩

def childrenField : FieldSpec FieldType := .required "of" (.list true (.record plainType))
def nameField : FieldSpec FieldType := .required "field" .text
def textField : FieldSpec FieldType := .required "value" .text

/-- The four bounds of a range. -/
def boundFields (type : FieldType) : List (FieldSpec FieldType) :=
  ["gte", "gt", "lte", "lt"].map fun n => .optional n type

def kinds : Catalog :=
  [plainType.toKind, envelopeType.toKind,
    .under "Query" "AndQuery" [childrenField],
    .under "Query" "OrQuery" [childrenField],
    .under "Query" "NotQuery" [childrenField],
    .under "Query" "MatchAllQuery" [],
    .under "Query" "TermQuery" [nameField, .required "value" .any],
    .under "Query" "TermsQuery" [nameField, .required "value" (.list false .any)],
    .under "Query" "MatchQuery" [nameField, textField, .optional "operator" .text],
    .under "Query" "RangeQuery" (nameField :: boundFields .any),
    .under "Query" "DateRangeQuery"
      (nameField :: boundFields .instant ++ [.optional "time_zone" .text]),
    .under "Query" "RegexQuery" [nameField, textField],
    .under "Query" "PrefixQuery" [nameField, textField],
    .under "Query" "WildcardQuery" [nameField, textField],
    .under "Query" "ExistsQuery" [nameField, .preset "value" .flag (.bool true)],
    .under "Query" "BboxQuery" [nameField, .required "value" (.record envelopeType)],
    .under "Query" "LuceneQuery" [.required "query" .text, .optional "default_field" .text,
      .preset "default_operator" .text (.str "and")]]

end PortableSearch.Query
