import Mathlib

namespace Kuscia.DataMesh

/-!
# Uploading DomainData through the data proxy

`pkg/datamesh/dataserver/io/builtin`.  A client uploads a DomainData as an
Arrow Flight stream; a converter writes it to an `io.Writer` (the raw bytes of
binary columns for `RAW`, CSV for `CSV` and `Table`), and the back end is
either a local file or an `OSSUploader`, which buffers up to a part size, then
hands parts to a goroutine doing an S3 multipart upload, or sends a small
object with one `PutObject`.

Everything outside the repository is an argument: the records and final
`Err()` of the flight reader, the CSV bytes the arrow writer produces (it is
assumed to flush each record it writes, so each record is one write), the
answers of the file system and of the S3 calls.  The upload goroutine is run
as soon as it can (it receives each part when it is sent); its channel holds
three parts, so once it has stopped a fourth send blocks for ever, which the
model records as a writer state `none`.  The deferred `Close` of the OSS back
end starts `FinishUpload` in a goroutine; its effect on the store is counted
after `Write` has returned.
-/

abbrev Bytes := List UInt8

/-- `datamesh.ContentType`; an unknown proto3 value prints as its number. -/
inductive ContentType where
  | Table
  | RAW
  | CSV
  | unknown (value : Int)
  deriving Repr, DecidableEq

def ContentType.enumName : ContentType → String
  | .Table => "Table"
  | .RAW => "RAW"
  | .CSV => "CSV"
  | .unknown value => toString value

/-- An Arrow column as the writers read it: a `*array.Binary`, another base
binary type (a string column), or any other type. -/
inductive Column where
  | binary (values : List Bytes)
  | baseBinary (dataType : String)
  | other (dataType : String)

structure Record where
  columns : List Column

/-- What `flight.Reader` delivers: the records `Next` yields, then `Err()`. -/
structure FlightStream where
  records : List Record
  err : Option String

structure DomainData where
  domaindataId : String

/-- An `io.Writer` over a state `σ`: the state after the write, or its error. -/
structure Writer (σ : Type) where
  write : σ → Bytes → Except String σ

/-- The bytes the arrow CSV writer produces: the header, and each record's rows. -/
structure CsvFormat where
  header : Bytes
  rows : Record → Bytes

section Converters

variable {σ : Type} (w : Writer σ)

/-! ## Flight stream to content (`dataio.go`) -/

/-- The values of one binary column, each with its own `w.Write`. -/
def writeValues : σ → List Bytes → σ × Option String
  | s, [] => (s, none)
  | s, value :: rest =>
    match w.write s value with
    | .error err => (s, some err)
    | .ok s => writeValues s rest

/-- The columns of one record: a column that is not base binary is refused; a
base binary column other than `*array.Binary` is passed over. -/
def writeColumns (data : DomainData) : σ → List Column → σ × Option String
  | s, [] => (s, none)
  | s, .binary values :: rest =>
    match writeValues w s values with
    | (s, some err) => (s, some err)
    | (s, none) => writeColumns data s rest
  | s, .baseBinary _ :: rest => writeColumns data s rest
  | s, .other dataType :: _ =>
    let domaindataId := data.domaindataId
    (s, some s!"domaindata({domaindataId}) input data is not binary. type={dataType}")

def writeRecords (data : DomainData) : σ → List Record → σ × Option String
  | s, [] => (s, none)
  | s, record :: rest =>
    match writeColumns w data s record.columns with
    | (s, some err) => (s, some err)
    | (s, none) => writeRecords data s rest

/-- `FlightStreamToDataProxyContentBinary`.  The reader's `Err()` is not read. -/
def FlightStreamToDataProxyContentBinary (data : DomainData) (reader : Option FlightStream)
    (s : σ) : σ × Option String :=
  match reader with
  | none => (s, some "flight reader is not allowed to be nil")
  | some stream => writeRecords w data s stream.records

/-- The loop of `csvWriter.Write`: the header goes out with the first record. -/
def writeCsvRecords (csv : CsvFormat) (headerWritten : Bool) : σ → List Record → σ × Option String
  | s, [] => (s, none)
  | s, record :: rest =>
    match w.write s ((if headerWritten then [] else csv.header) ++ csv.rows record) with
    | .error err => (s, some err)
    | .ok s => writeCsvRecords csv true s rest

/-- `FlightStreamToDataProxyContentCSV`.  An empty stream gets its header from
`encoding/csv`, whose error only `Flush` would report, and `Flush`'s error is
not read; the reader's `Err()` is only logged. -/
def FlightStreamToDataProxyContentCSV (csv : CsvFormat) (reader : Option FlightStream)
    (s : σ) : σ × Option String :=
  match reader with
  | none => (s, some "flight reader is not allowed to be nil")
  | some stream =>
    match writeCsvRecords w csv false s stream.records with
    | (s, some err) => (s, some err)
    | (s, none) =>
      if stream.records.length = 0 then
        match w.write s csv.header with
        | .ok s => (s, none)
        | .error _ => (s, none)
      else (s, none)

end Converters

/-! ## The OSS uploader (`oss_uploader.go`) -/

/-- The answers of the S3 calls: `none` for success, `some err` for a failure;
`UploadPart` answers by part number. -/
structure OssService where
  createMultipartUpload : Option String
  uploadPart : Nat → Option String
  completeMultipartUpload : Option String
  putObject : Option String

/-- The upload goroutine: not started, receiving parts (the next part number
and the parts uploaded), returned early with an error, or finished. -/
inductive Consumer where
  | notStarted
  | receiving (nextPartNumber : Nat) (parts : List Bytes)
  | stopped
  | finished

/-- `OSSUploader`, with the object the store holds once a `PutObject` or a
`CompleteMultipartUpload` succeeded. -/
structure OSSUploader where
  buffer : Bytes
  partSizeBytes : Nat
  isFinished : Bool
  uploadLastError : Option String
  isUploadStarted : Bool
  consumer : Consumer
  multiPartUploadChan : List Bytes
  stored : Option Bytes

def NewOSSUploader (partSizeBytes : Nat) : OSSUploader where
  buffer := []
  partSizeBytes := partSizeBytes
  isFinished := false
  uploadLastError := none
  isUploadStarted := false
  consumer := .notStarted
  multiPartUploadChan := []
  stored := none

/-- The capacity of `multiPartUploadChan`. -/
def chanCapacity : Nat := 3

namespace OSSUploader

variable (svc : OssService)

/-- The receiving loop of `multiPartUpload`: upload each waiting part in
order, returning at the first failed `UploadPart`. -/
def receiveParts (nextPartNumber : Nat) (parts : List Bytes) :
    List Bytes → Consumer × List Bytes × Option String
  | [] => (.receiving nextPartNumber parts, [], none)
  | buf :: rest =>
    match svc.uploadPart nextPartNumber with
    | none => receiveParts (nextPartNumber + 1) (parts ++ [buf]) rest
    | some err => (.stopped, rest, some err)

/-- `appendBuffer`: send a part (the first send also starts the goroutine,
which creates the multipart upload).  `none`: the send blocks for ever. -/
def appendBuffer (ow : OSSUploader) (p : Bytes) : Option OSSUploader :=
  match ow.consumer with
  | .receiving nextPartNumber parts =>
    let (consumer, waiting, err) := receiveParts svc nextPartNumber parts (ow.multiPartUploadChan ++ [p])
    some { ow with consumer, multiPartUploadChan := waiting, uploadLastError := err.or ow.uploadLastError }
  | .notStarted =>
    match svc.createMultipartUpload with
    | none =>
      let (consumer, waiting, err) := receiveParts svc 1 [] (ow.multiPartUploadChan ++ [p])
      some { ow with
        isUploadStarted := true, consumer, multiPartUploadChan := waiting
        uploadLastError := err.or ow.uploadLastError }
    | some err =>
      some { ow with
        isUploadStarted := true, consumer := .stopped
        multiPartUploadChan := ow.multiPartUploadChan ++ [p], uploadLastError := some err }
  | .stopped | .finished =>
    if ow.multiPartUploadChan.length < chanCapacity then
      some { ow with multiPartUploadChan := ow.multiPartUploadChan ++ [p] }
    else none

/-- `Write`: buffer, or send a whole part once the buffer reaches the part
size.  It never returns an error. -/
def Write (ow : OSSUploader) (p : Bytes) : Option OSSUploader :=
  if ow.partSizeBytes ≤ ow.buffer.length + p.length then
    if ow.buffer.length = 0 then appendBuffer svc ow p
    else
      (appendBuffer svc { ow with buffer := ow.buffer ++ p } (ow.buffer ++ p)).map
        fun ow => { ow with buffer := [] }
  else some { ow with buffer := ow.buffer ++ p }

/-- After the cancel signal: the goroutine completes the upload of the parts
it received, and `FinishUpload` reports any upload error. -/
def finishWait (ow : OSSUploader) : Option String × OSSUploader :=
  let ow :=
    match ow.consumer with
    | .receiving _ parts =>
      match svc.completeMultipartUpload with
      | none => { ow with consumer := .finished, stored := some parts.flatten }
      | some err => { ow with consumer := .finished, uploadLastError := some err }
    | _ => ow
  match ow.uploadLastError with
  | some err => (some s!"some upload failed with {err}", ow)
  | none => (none, ow)

/-- `FinishUpload`.  A buffer left over is sent with `PutObject` when no part
was sent, and as a last part otherwise.  `none`: that send blocks for ever. -/
def FinishUpload (ow : OSSUploader) : Option (Option String × OSSUploader) :=
  if ow.isFinished then some (some "had called FinishUpload", ow)
  else
    let ow := { ow with isFinished := true }
    if ow.buffer.length ≠ 0 then
      if ow.isUploadStarted then (appendBuffer svc ow ow.buffer).map (finishWait svc)
      else
        match svc.putObject with
        | some err => some (some err, { ow with uploadLastError := some err })
        | none => some (finishWait svc { ow with stored := some ow.buffer })
    else some (finishWait svc ow)

/-- The uploader as the converters' `io.Writer`; a blocked writer stays blocked. -/
def writer : Writer (Option OSSUploader) where
  write state p := .ok (state.bind fun ow => Write svc ow p)

end OSSUploader

/-! ## The back ends -/

/-- What a `Write` call leaves: its result (`none` if it never returns) and the
object or file content afterwards (`none` if nothing was stored). -/
structure WriteOutcome where
  returned : Option (Option String)
  stored : Option Bytes
  deriving DecidableEq

/-- The part size of `BuiltinOssIO.Write`. -/
def ossPartSizeBytes : Nat := 5 * 1024 * 1024

/-- `BuiltinOssIO.Write`, with the domain data source resolved and the client
created; the deferred `exchanger.Close()` runs `FinishUpload` after return. -/
def BuiltinOssIOWrite (svc : OssService) (csv : CsvFormat) (data : DomainData)
    (contentType : ContentType) (reader : Option FlightStream) : WriteOutcome :=
  let exchanger : Option OSSUploader := some (NewOSSUploader ossPartSizeBytes)
  let (state, err) :=
    match contentType with
    | .RAW => FlightStreamToDataProxyContentBinary (OSSUploader.writer svc) data reader exchanger
    | .CSV | .Table =>
      FlightStreamToDataProxyContentCSV (OSSUploader.writer svc) csv reader exchanger
    | .unknown _ =>
      let name := contentType.enumName
      (exchanger, some s!"invalidate content-type: {name}")
  -- no error: finish the upload now
  let finished : Option (Option String × OSSUploader) :=
    match err with
    | none => state.bind (OSSUploader.FinishUpload svc)
    | some err => state.map fun ow => (some err, ow)
  match finished with
  | none => ⟨none, none⟩
  | some (err, ow) =>
    -- the deferred Close: FinishUpload again, in the background
    let closed := (OSSUploader.FinishUpload svc ow).elim ow Prod.snd
    ⟨some err, closed.stored⟩

/-- The opened local file: its content and the writes made so far. -/
structure LocalFile where
  content : Bytes
  writes : Nat

/-- The file as an `io.Writer`; the file system answers each write by its
index (a failed write adds nothing). -/
def fileWriter (failWrite : Nat → Option String) : Writer LocalFile where
  write file p :=
    match failWrite file.writes with
    | some err => .error err
    | none => .ok ⟨file.content ++ p, file.writes + 1⟩

/-- `BuiltinLocalFileIO.Write`, with the domain data source resolved; opening
the file (created or truncated) may fail. -/
def BuiltinLocalFileIOWrite (openFile : Option String) (failWrite : Nat → Option String)
    (csv : CsvFormat) (data : DomainData) (contentType : ContentType)
    (reader : Option FlightStream) : WriteOutcome :=
  match openFile with
  | some err => ⟨some (some err), none⟩
  | none =>
    let file : LocalFile := ⟨[], 0⟩
    let (file, err) :=
      match contentType with
      | .RAW => FlightStreamToDataProxyContentBinary (fileWriter failWrite) data reader file
      | .CSV | .Table => FlightStreamToDataProxyContentCSV (fileWriter failWrite) csv reader file
      | .unknown _ =>
        let name := contentType.enumName
        (file, some s!"invalidate content-type: {name}")
    ⟨some err, some file.content⟩

/-- A stream that ends with an error, and a stream whose second record has an
`int64` column, both against an S3 whose calls all succeed.  The first upload
returns `nil` and its deferred `FinishUpload` has stored the three bytes
received before the error (`PutObject`); the second returns the column error,
and the deferred `Close` stores the same partial object.  The local file back
end also returns `nil` for the first stream. -/
theorem upload_commits_partial_content :
    let succeeding : OssService := ⟨none, fun _ => none, none, none⟩
    let csv : CsvFormat := ⟨[], fun _ => []⟩
    let data : DomainData := ⟨"dd-1"⟩
    let abc : Bytes := [97, 98, 99]
    let brokenStream : FlightStream := ⟨[⟨[.binary [abc]]⟩], some "stream reset"⟩
    BuiltinOssIOWrite succeeding csv data .RAW (some brokenStream) = ⟨some none, some abc⟩ ∧
      BuiltinOssIOWrite succeeding csv data .RAW
          (some ⟨[⟨[.binary [abc]]⟩, ⟨[.other "int64"]⟩], none⟩) =
        ⟨some (some "domaindata(dd-1) input data is not binary. type=int64"), some abc⟩ ∧
      BuiltinLocalFileIOWrite none (fun _ => none) csv data .RAW (some brokenStream) =
        ⟨some none, some abc⟩ := by
  decide

end Kuscia.DataMesh
