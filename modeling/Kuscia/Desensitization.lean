import Mathlib

namespace Kuscia.WebUtils

/-!
# Desensitized request and response logs

`desensitization.go` turns a request or response into a
`map[string]interface{}` with the values of sensitive fields replaced by
`"***"`, walking it by reflection; the interceptors (`grpc_interceptor.go`,
`http_interceptor.go`, `common.go`) marshal that map with `encoding/json` into
the log line.

A Go value is modelled by the shape the walk distinguishes: structs with their
tags, pointers, `map[string]string`, `map[string]interface{}`, other maps,
`[]interface{}`, `[]map[string]interface{}` and every other slice.  A typed
slice such as `[]*DomainDataSource` is none of the cases the walk rewrites, so
it reaches `encoding/json` as it is.
-/

/-- The `json` and `protobuf` struct tags of a field. -/
structure FieldTag where
  json : String
  protobuf : String
  deriving DecidableEq

/-- A Go value as the reflective walk and `encoding/json` see it. -/
inductive GoValue where
  | null
  | bool (b : Bool)
  | int (n : Int)
  | str (s : String)
  | ptr (target : Option GoValue)
  | struct (fields : List (FieldTag × GoValue))
  | stringMap (entries : List (String × String))
  | anyMap (entries : List (String × GoValue))
  | otherMap (entries : List (String × GoValue))
  | anySlice (elems : List GoValue)
  | mapSlice (elems : List (List (String × GoValue)))
  | slice (elems : List GoValue)

/-- `desensitizedValue`. -/
def desensitizedValue : String := "***"

/-- The characters of `strings.Split(s, ",")`. -/
def splitOnComma : List Char → List (List Char)
  | [] => [[]]
  | c :: rest =>
      if c = ',' then [] :: splitOnComma rest
      else
        match splitOnComma rest with
        | [] => [[c]]
        | first :: others => (c :: first) :: others

/-- `strings.Split(s, ",")`. -/
def stringsSplitComma (s : String) : List String :=
  (splitOnComma s.toList).map String.ofList

/-- `getFieldTypeNameWithPbJSONTag`: the JSON name of a protobuf field, empty
for any other field. -/
def getFieldTypeNameWithPbJSONTag (tag : FieldTag) : String :=
  if tag.json = "" || tag.json = "-" || tag.protobuf = "" then ""
  else (stringsSplitComma tag.json).headD ""

/-- `desensitizeFieldOrKeyValue`. -/
def desensitizeFieldOrKeyValue (fieldOrKeyName : String) (v : GoValue) (sensitiveFields : List String) :
    GoValue :=
  if sensitiveFields.contains fieldOrKeyName then .str desensitizedValue else v

/-- The `string` case of `filterMapDesensitizeKey`. -/
def filterStringValue (sensitiveFields : List String) (key value : String) : GoValue :=
  if value ≠ "" then desensitizeFieldOrKeyValue key (.str value) sensitiveFields else .str value

/-- Replace the value of a key, or add it. -/
def setKey (result : List (String × GoValue)) (key : String) (value : GoValue) :
    List (String × GoValue) :=
  if result.any (·.1 == key) then result.map fun entry => if entry.1 = key then (key, value) else entry
  else result ++ [(key, value)]

/-- The `map[string]string` case: every value becomes an `interface{}` and is
filtered as a string. -/
def stringMapToInterface (sensitiveFields : List String) (entries : List (String × String)) :
    List (String × GoValue) :=
  if sensitiveFields = [] then entries.map fun entry => (entry.1, .str entry.2)
  else entries.map fun entry => (entry.1, filterStringValue sensitiveFields entry.1 entry.2)

mutual

/-- `structToMap` after the pointer is followed: a struct or a map as a
desensitized map, anything else as the empty map. -/
def structToMapElem (sensitiveFields : List String) : GoValue → List (String × GoValue)
  | .anyMap entries => if sensitiveFields = [] then entries else filterMapEntries sensitiveFields entries
  | .otherMap entries => if sensitiveFields = [] then entries else filterMapEntries sensitiveFields entries
  | .stringMap entries => stringMapToInterface sensitiveFields entries
  | .struct fields => structFields sensitiveFields fields []
  | _ => []

/-- The loop of `structToMap` over the fields of a struct. -/
def structFields (sensitiveFields : List String) :
    List (FieldTag × GoValue) → List (String × GoValue) → List (String × GoValue)
  | [], result => result
  | (tag, fieldValue) :: rest, result =>
      let fieldName := getFieldTypeNameWithPbJSONTag tag
      if fieldName = "" then
        structFields sensitiveFields rest result
      else
        match fieldValue with
        | .ptr none => structFields sensitiveFields rest result
        | .ptr (some v) =>
            structFields sensitiveFields rest
              ((fieldEntry sensitiveFields fieldName v).elim result (setKey result fieldName))
        | v =>
            structFields sensitiveFields rest
              ((fieldEntry sensitiveFields fieldName v).elim result (setKey result fieldName))

/-- The entry one field gives, by the kind of its (dereferenced) type; `none`
when the field is skipped. -/
def fieldEntry (sensitiveFields : List String) (fieldName : String) : GoValue → Option GoValue
  | .struct fields => some (.anyMap (structFields sensitiveFields fields []))
  | .stringMap entries => some (.anyMap (stringMapToInterface sensitiveFields entries))
  | .anyMap entries =>
      some (.anyMap (if sensitiveFields = [] then entries else filterMapEntries sensitiveFields entries))
  | .otherMap _ => none
  | .str s =>
      match desensitizeFieldOrKeyValue fieldName (.str s) sensitiveFields with
      | .str "" => none
      | masked => some masked
  | .anySlice elems =>
      some (if sensitiveFields = [] then .anySlice elems else .mapSlice (structToMapList sensitiveFields elems))
  | .mapSlice elems =>
      some (if sensitiveFields = [] then .mapSlice elems else .mapSlice (filterMapList sensitiveFields elems))
  | .slice elems =>
      some (if sensitiveFields = [] then .slice elems
        else desensitizeFieldOrKeyValue fieldName (.slice elems) sensitiveFields)
  | v => some (desensitizeFieldOrKeyValue fieldName v sensitiveFields)

/-- The loop of `filterMapDesensitizeKey` once the sensitive fields are known
to be non-empty. -/
def filterMapEntries (sensitiveFields : List String) : List (String × GoValue) → List (String × GoValue)
  | [] => []
  | (key, val) :: rest => (key, filterValue sensitiveFields key val) :: filterMapEntries sensitiveFields rest

/-- The type switch of `filterMapDesensitizeKey` on one value. -/
def filterValue (sensitiveFields : List String) (key : String) : GoValue → GoValue
  | .str value => filterStringValue sensitiveFields key value
  | .anyMap m => .anyMap (if sensitiveFields = [] then m else filterMapEntries sensitiveFields m)
  | .anySlice elems => .mapSlice (structToMapList sensitiveFields elems)
  | .mapSlice elems => .mapSlice (filterMapList sensitiveFields elems)
  | .struct fields => .anyMap (structFields sensitiveFields fields [])
  | v => desensitizeFieldOrKeyValue key v sensitiveFields

/-- `structToMap` on every element of a `[]interface{}`. -/
def structToMapList (sensitiveFields : List String) : List GoValue → List (List (String × GoValue))
  | [] => []
  | .ptr none :: rest => [] :: structToMapList sensitiveFields rest
  | .ptr (some v) :: rest => structToMapElem sensitiveFields v :: structToMapList sensitiveFields rest
  | v :: rest => structToMapElem sensitiveFields v :: structToMapList sensitiveFields rest

/-- `filterMapDesensitizeKey` on every element of a `[]map[string]interface{}`. -/
def filterMapList (sensitiveFields : List String) :
    List (List (String × GoValue)) → List (List (String × GoValue))
  | [] => []
  | m :: rest =>
      (if sensitiveFields = [] then m else filterMapEntries sensitiveFields m) ::
        filterMapList sensitiveFields rest

end

/-- `structToMap`: follow a pointer, then convert. -/
def structToMap (sensitiveFields : List String) : GoValue → List (String × GoValue)
  | .ptr none => []
  | .ptr (some v) => structToMapElem sensitiveFields v
  | v => structToMapElem sensitiveFields v

/-- `filterMapDesensitizeKey`. -/
def filterMapDesensitizeKey (sensitiveFields : List String) (mapData : List (String × GoValue)) :
    List (String × GoValue) :=
  if sensitiveFields = [] then mapData else filterMapEntries sensitiveFields mapData

/-- `StructToMap`. -/
def StructToMap (s : GoValue) (sensitiveFields : List String) : List (String × GoValue) :=
  match s with
  | .null => []
  | s => structToMap sensitiveFields s

end Kuscia.WebUtils

namespace Kuscia.EncodingJson

open Kuscia.WebUtils

/-!
`encoding/json`'s `Marshal` on the values the walk produces or leaves: struct
fields in declaration order under their tag names, map keys sorted, the HTML
characters escaped.
-/

/-- The hexadecimal digit of a nibble. -/
def hexDigit (n : Nat) : Char :=
  if n < 10 then Char.ofNat (48 + n) else Char.ofNat (87 + n)

/-- One character of a JSON string literal. -/
def escapeChar (c : Char) : String :=
  if c = '"' then "\\\""
  else if c = '\\' then "\\\\"
  else if c = '\n' then "\\n"
  else if c = '\r' then "\\r"
  else if c = '\t' then "\\t"
  else if c.toNat < 32 || c = '<' || c = '>' || c = '&' then
    "\\u00" ++ String.singleton (hexDigit (c.toNat / 16)) ++ String.singleton (hexDigit (c.toNat % 16))
  else String.singleton c

/-- A JSON string literal. -/
def quote (s : String) : String :=
  "\"" ++ String.join (s.toList.map escapeChar) ++ "\""

/-- A JSON object from encoded members, keys sorted as for a Go map. -/
def sortedObject (members : List (String × String)) : String :=
  let sorted := members.insertionSort fun a b => a.1.toList ≤ b.1.toList
  "\x7b" ++ ",".intercalate (sorted.map fun member => quote member.1 ++ ":" ++ member.2) ++ "\x7d"

/-- `isEmptyValue`, for `omitempty`. -/
def isEmptyValue : GoValue → Bool
  | .null => true
  | .bool b => !b
  | .int n => n == 0
  | .str s => s == ""
  | .ptr none => true
  | .ptr (some _) => false
  | .struct _ => false
  | .stringMap entries => entries.isEmpty
  | .anyMap entries => entries.isEmpty
  | .otherMap entries => entries.isEmpty
  | .anySlice elems => elems.isEmpty
  | .mapSlice elems => elems.isEmpty
  | .slice elems => elems.isEmpty

mutual

/-- `Marshal`. -/
def Marshal : GoValue → String
  | .null => "null"
  | .bool b => toString b
  | .int n => toString n
  | .str s => quote s
  | .ptr none => "null"
  | .ptr (some v) => Marshal v
  | .struct fields => "\x7b" ++ ",".intercalate (structMembers fields) ++ "\x7d"
  | .stringMap entries => sortedObject (entries.map fun entry => (entry.1, quote entry.2))
  | .anyMap entries => sortedObject (mapMembers entries)
  | .otherMap entries => sortedObject (mapMembers entries)
  | .anySlice elems => "[" ++ ",".intercalate (marshalList elems) ++ "]"
  | .mapSlice elems => "[" ++ ",".intercalate (marshalMapList elems) ++ "]"
  | .slice elems => "[" ++ ",".intercalate (marshalList elems) ++ "]"

/-- The members of a struct: tagged name, skipped with tag `-` or when
`omitempty` and empty. -/
def structMembers : List (FieldTag × GoValue) → List String
  | [] => []
  | (tag, v) :: rest =>
      let parts := stringsSplitComma tag.json
      let name := parts.headD ""
      if tag.json = "-" || (parts.tail.contains "omitempty" && isEmptyValue v) then
        structMembers rest
      else
        (quote name ++ ":" ++ Marshal v) :: structMembers rest

/-- The encoded members of a map. -/
def mapMembers : List (String × GoValue) → List (String × String)
  | [] => []
  | (key, v) :: rest => (key, Marshal v) :: mapMembers rest

/-- The encoded elements of a slice. -/
def marshalList : List GoValue → List String
  | [] => []
  | v :: rest => Marshal v :: marshalList rest

/-- The encoded elements of a `[]map[string]interface{}`. -/
def marshalMapList : List (List (String × GoValue)) → List String
  | [] => []
  | m :: rest => sortedObject (mapMembers m) :: marshalMapList rest

end

end Kuscia.EncodingJson

namespace Kuscia.WebInterceptor

open Kuscia.WebUtils Kuscia.EncodingJson

/-- `sensitiveFields`. -/
def sensitiveFields : List String := ["password", "access_key_id", "access_key_secret"]

/-- `sensitiveHTTPPathPrefix`. -/
def sensitiveHTTPPathPrefix : List String := ["/api/v1/configmanager/config", "/api/v1/config"]

/-- `sensitiveGRPCPathPrefix`. -/
def sensitiveGRPCPathPrefix : List String :=
  ["/kuscia.proto.api.v1alpha1.kusciaapi.ConfigService", "/kuscia.proto.api.v1alpha1.confmanager.ConfigService"]

/-- `strings.Contains`. -/
def stringsContains (s substr : String) : Bool :=
  decide (substr.toList <:+: s.toList)

/-- `hasSensitiveHTTPPathPrefix`. -/
def hasSensitiveHTTPPathPrefix (path : String) : Bool :=
  sensitiveHTTPPathPrefix.any (stringsContains path)

/-- `hasSensitiveGRPCPathPrefix`. -/
def hasSensitiveGRPCPathPrefix (path : String) : Bool :=
  sensitiveGRPCPathPrefix.any (stringsContains path)

/-- `maxSizeBytes`. -/
def maxSizeBytes : Nat := 1024

/-- `cutSlice`, on the characters of the body. -/
def cutSlice (slice : String) (maxLen : Nat) : String :=
  if slice.length > maxLen then String.ofList (slice.toList.take maxLen) else slice

/-- `loggerContext`; the duration and the errors are as `%s` and `%v` print
them. -/
structure LoggerContext where
  protocol : String
  xForwardHost : String
  contextType : String
  duration : String
  errs : List String
  requestPath : String
  requestMethod : String
  requestBody : String
  statusCode : Int
  responseBody : String

/-- `printfLoggerContext`: the log line. -/
def printfLoggerContext (loggerContext : LoggerContext) : String :=
  let protocol := loggerContext.protocol
  let method := loggerContext.requestMethod
  let path := loggerContext.requestPath
  let duration := loggerContext.duration
  let statusCode := loggerContext.statusCode
  let forwardHost := loggerContext.xForwardHost
  let contextType := loggerContext.contextType
  let request := cutSlice loggerContext.requestBody maxSizeBytes
  let response := cutSlice loggerContext.responseBody maxSizeBytes
  let errs := " ".intercalate loggerContext.errs
  if loggerContext.errs.isEmpty then
    s!"[{protocol}] [{method} {path}] Duration: {duration}, StatusCode: {statusCode}, ForwardHost: [{forwardHost}], ContextType: [{contextType}], Request: {request}, Response: {response}"
  else
    s!"[{protocol}] [{path}] Duration: {duration}, StatusCode: {statusCode}, ForwardHost: [{forwardHost}], ContextType: [{contextType}], Request: {request}, Response: {response}, Error: [{errs}]"

/-- `adjustGRPCRequestAndResponse`: `json.Marshal` cannot fail on these
values. -/
def adjustGRPCRequestAndResponse (ctx : LoggerContext) (req resp : GoValue) : LoggerContext :=
  { ctx with
    requestBody := Marshal (.anyMap (StructToMap req sensitiveFields))
    responseBody := Marshal (.anyMap (StructToMap resp sensitiveFields)) }

/-- The line `GrpcServerLoggingInterceptor` logs for a unary call. -/
def GrpcServerLoggingInterceptor
    (fullMethod forwardHosts duration : String)
    (statusCode : Int)
    (errs : List String)
    (req resp : GoValue) :
    String :=
  let logContext : LoggerContext :=
    { protocol := "GRPC", requestMethod := "GRPC", requestPath := fullMethod, xForwardHost := forwardHosts,
      contextType := "", statusCode := statusCode, errs := errs, duration := duration,
      requestBody := "", responseBody := "" }
  let logContext :=
    if hasSensitiveGRPCPathPrefix logContext.requestPath then logContext
    else adjustGRPCRequestAndResponse logContext req resp
  printfLoggerContext logContext

/-- `adjustHTTPRequestAndResponse` on the bodies as `json.Unmarshal` decodes
them into an `interface{}` (`none` for an empty or undecodable body, or a
response body of `maxSizeBytes` or more). -/
def adjustHTTPRequestAndResponse (ctx : LoggerContext) (req resp : Option GoValue) : LoggerContext :=
  let ctx := match req with
    | some structInterface => { ctx with requestBody := Marshal (.anyMap (StructToMap structInterface sensitiveFields)) }
    | none => ctx
  match resp with
  | some structInterface => { ctx with responseBody := Marshal (.anyMap (StructToMap structInterface sensitiveFields)) }
  | none => ctx

/-- The line `HTTPServerLoggingInterceptor` logs for a request. -/
def HTTPServerLoggingInterceptor
    (method requestURI forwardHost contextType duration : String)
    (statusCode : Int)
    (errs : List String)
    (req resp : Option GoValue) :
    String :=
  let context : LoggerContext :=
    { protocol := "HTTP", requestMethod := method, requestPath := requestURI, xForwardHost := forwardHost,
      contextType := contextType, statusCode := statusCode, duration := duration, errs := errs,
      requestBody := "", responseBody := "" }
  let context :=
    if hasSensitiveHTTPPathPrefix context.requestPath then context
    else adjustHTTPRequestAndResponse context req resp
  printfLoggerContext context

/-- The access key secret of a data source listed by `ListDomainDataSource`
(a `[]*DomainDataSource` field) reaches the gRPC log as it is, and so does an
HTTP request body that spells it `accessKeySecret`: two secrets of one length
give two different log lines. -/
theorem log_line_reveals_access_key_secret :
    let field (name : String) (v : GoValue) : FieldTag × GoValue := (⟨name ++ ",omitempty", "bytes"⟩, v)
    let ossInfo (secret : String) : GoValue :=
      .ptr (some (.struct [field "access_key_id" (.str "AKID"), field "access_key_secret" (.str secret)]))
    let listResponse (secret : String) : GoValue :=
      .ptr (some (.struct [field "data" (.ptr (some (.struct [field "datasource_list" (.slice
        [.ptr (some (.struct [field "datasource_id" (.str "oss-ds"),
          field "info" (.ptr (some (.struct [field "oss" (ossInfo secret)])))]))])])))]))
    let grpcLine (secret : String) : String :=
      GrpcServerLoggingInterceptor "/kuscia.proto.api.v1alpha1.kusciaapi.DomainDataSourceService/ListDomainDataSource"
        "" "1ms" 0 [] (.ptr (some (.struct [field "domain_id" (.str "alice")]))) (listResponse secret)
    let httpLine (secret : String) : String :=
      HTTPServerLoggingInterceptor "POST" "/api/v1/domaindatasource/create" "" "application/json" "1ms" 200 []
        (some (.anyMap [("domain_id", .str "alice"),
          ("info", .anyMap [("oss", .anyMap [("accessKeySecret", .str secret)])])])) none
    grpcLine "secretA" ≠ grpcLine "secretB" ∧ httpLine "secretA" ≠ httpLine "secretB" := by
  decide +kernel

end Kuscia.WebInterceptor
