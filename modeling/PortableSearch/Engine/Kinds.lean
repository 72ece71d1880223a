import PortableSearch.Query.Kinds

/-! The kinds of records of the engine's own queries and requests. -/
namespace PortableSearch.Engine
open PortableSearch.Shape

/-- What a plain object stands for where an engine query is expected. -/
def plainType : RecordType FieldType := ⟨"EsQuery", [], false⟩

def boostField : FieldSpec FieldType := .optional "boost" .double

/-- The clauses of a boolean query that go under a name. -/
def clausesField (name : String) : FieldSpec FieldType :=
  .preset name (.list false (.record plainType)) (.list [])

def paramsField : FieldSpec FieldType := .preset "params" (.dict .any) (.obj [])

def kinds : Catalog :=
  [plainType.toKind,
    .under "EsQuery" "EsBoolQuery" (["must", "filter", "should", "must_not"].map clausesField),
    .under "EsQuery" "EsMatchAllQuery" [],
    .under "EsQuery" "EsRangeQuery" (Query.nameField :: Query.boundFields .any ++
      [boostField, .optional "format" .text, .optional "time_zone" .text]),
    .under "EsQuery" "EsTermQuery" [Query.nameField, Query.textField, boostField],
    .under "EsQuery" "EsTermsQuery" [Query.nameField, .required "value" (.list false .text),
      boostField],
    .under "EsQuery" "EsMatchQuery" [Query.nameField, Query.textField, .optional "operator" .text,
      boostField],
    .under "EsQuery" "EsWildcardQuery" [Query.nameField, Query.textField],
    .under "EsQuery" "EsRegexpQuery" [Query.nameField, Query.textField, boostField],
    .under "EsQuery" "EsPrefixQuery" [Query.nameField, Query.textField, boostField],
    .under "EsQuery" "EsQueryStringQuery" [.required "query" .text,
      .optional "default_field" .text, .optional "default_operator" .text],
    .under "EsQuery" "EsInlineTemplateQuery" [.required "template" .text, paramsField],
    .under "EsQuery" "EsStoredTemplateQuery" [.required "id" .text, paramsField],
    .under "EsQuery" "EsGeoBoundingBoxQuery" [Query.nameField,
      .required "bbox" (.record Query.envelopeType)],
    .under "EsQuery" "EsExistsQuery" [Query.nameField],
    .plain "EsSearchRequest" [(FieldSpec.preset "from_" .integer (.int 0)).writtenAs "from",
      .preset "size" .integer (.int 50), .optional "query" (.record plainType),
      (FieldSpec.optional "source" (.list false .text)).writtenAs "_source",
      .optional "aggs" .instanceOnly, .optional "sort" (.list false (.dict .text)),
      .optional "stored_fields" (.list false .text)]]

end PortableSearch.Engine
