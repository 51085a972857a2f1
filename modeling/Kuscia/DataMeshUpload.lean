import Kuscia.DataMeshIO

namespace Kuscia.DataMesh

/-!
# What an upload stores

Two facts about `BuiltinOssIO.Write` and `BuiltinLocalFileIO.Write`.  First,
their result never depends on the flight reader's `Err()`: a stream cut short
is uploaded and reported as a success.  Second, against an S3 whose calls all
succeed, the `OSSUploader` stores exactly the bytes written to it, whether
`Write` finishes the upload itself or the deferred `Close` does it after an
error: a RAW upload stores the concatenated values of the records it got
through, also when the converter stopped with an error part way.

The uploader part rests on one invariant, `Healthy`: nothing is finished,
failed or stored, the channel is empty, and the goroutine has received
non-empty parts or has not started.  `pending` is what it holds: the parts it
received and the buffer.
-/

/-! ## The bytes a RAW upload writes -/

/-- The values of a record's columns in writing order; `none` when a column
is not base binary. -/
def columnValues : List Column → Option (List Bytes)
  | [] => some []
  | .binary values :: rest => (columnValues rest).map (values ++ ·)
  | .baseBinary _ :: rest => columnValues rest
  | .other _ :: _ => none

def recordValues : List Record → Option (List Bytes)
  | [] => some []
  | record :: rest =>
    match columnValues record.columns, recordValues rest with
    | some first, some others => some (first ++ others)
    | _, _ => none

section TotalWriter

variable {σ : Type} {w : Writer σ} {step : σ → Bytes → σ}

/-- A writer whose writes all succeed writes each value in turn. -/
theorem writeValues_total
    (total : ∀ s p, w.write s p = .ok (step s p)) :
    ∀ (s : σ) (values : List Bytes), writeValues w s values = (values.foldl step s, none) := by
  intro s values
  induction values generalizing s with
  | nil => rfl
  | cons value rest inductionHypothesis =>
    simp only [writeValues, total, List.foldl_cons]
    exact inductionHypothesis _

theorem writeColumns_total
    (total : ∀ s p, w.write s p = .ok (step s p))
    (data : DomainData) :
    ∀ (s : σ) (columns : List Column) (values : List Bytes),
      columnValues columns = some values →
      writeColumns w data s columns = (values.foldl step s, none) := by
  intro s columns
  induction columns generalizing s with
  | nil =>
    intro values found
    cases found
    rfl
  | cons column rest inductionHypothesis =>
    intro values found
    cases column with
    | binary columnValues' =>
      simp only [columnValues, Option.map_eq_some_iff] at found
      obtain ⟨others, othersFound, rfl⟩ := found
      simp only [writeColumns, writeValues_total total, List.foldl_append]
      exact inductionHypothesis _ others othersFound
    | baseBinary dataType =>
      exact inductionHypothesis s values found
    | other dataType =>
      cases found

theorem writeRecords_total
    (total : ∀ s p, w.write s p = .ok (step s p))
    (data : DomainData) :
    ∀ (s : σ) (records : List Record) (values : List Bytes),
      recordValues records = some values →
      writeRecords w data s records = (values.foldl step s, none) := by
  intro s records
  induction records generalizing s with
  | nil =>
    intro values found
    cases found
    rfl
  | cons record rest inductionHypothesis =>
    intro values found
    unfold recordValues at found
    split at found
    · rename_i first others firstFound othersFound
      cases found
      simp only [writeRecords, writeColumns_total total data s record.columns first firstFound,
        List.foldl_append]
      exact inductionHypothesis _ others othersFound
    · cases found

/-- A record whose first column is not base binary stops the converter after
the values of the records before it. -/
theorem writeRecords_total_other
    (total : ∀ s p, w.write s p = .ok (step s p))
    (data : DomainData)
    (dataType : String)
    (columns : List Column)
    (rest : List Record) :
    ∀ (s : σ) (good : List Record) (values : List Bytes),
      recordValues good = some values →
      writeRecords w data s (good ++ ⟨.other dataType :: columns⟩ :: rest) =
        (values.foldl step s,
          some s!"domaindata({data.domaindataId}) input data is not binary. type={dataType}") := by
  intro s good
  induction good generalizing s with
  | nil =>
    intro values found
    cases found
    rfl
  | cons record others inductionHypothesis =>
    intro values found
    unfold recordValues at found
    split at found
    · rename_i first othersValues firstFound othersFound
      cases found
      simp only [List.cons_append, writeRecords,
        writeColumns_total total data s record.columns first firstFound, List.foldl_append]
      exact inductionHypothesis _ othersValues othersFound
    · cases found

end TotalWriter

/-! ## The stream's error is never read -/

theorem BuiltinOssIOWrite_ignores_err
    (svc : OssService)
    (csv : CsvFormat)
    (data : DomainData)
    (contentType : ContentType)
    (records : List Record)
    (err : Option String) :
    BuiltinOssIOWrite svc csv data contentType (some ⟨records, err⟩) =
      BuiltinOssIOWrite svc csv data contentType (some ⟨records, none⟩) := by
  cases contentType <;> rfl

theorem BuiltinLocalFileIOWrite_ignores_err
    (openFile : Option String)
    (failWrite : Nat → Option String)
    (csv : CsvFormat)
    (data : DomainData)
    (contentType : ContentType)
    (records : List Record)
    (err : Option String) :
    BuiltinLocalFileIOWrite openFile failWrite csv data contentType (some ⟨records, err⟩) =
      BuiltinLocalFileIOWrite openFile failWrite csv data contentType (some ⟨records, none⟩) := by
  cases openFile <;> cases contentType <;> rfl

/-! ## The uploader against a succeeding S3 -/

/-- Every S3 call succeeds. -/
structure OssService.AlwaysSucceeds (svc : OssService) : Prop where
  create : svc.createMultipartUpload = none
  upload : ∀ n, svc.uploadPart n = none
  complete : svc.completeMultipartUpload = none
  put : svc.putObject = none

namespace OSSUploader

/-- The parts the goroutine has uploaded. -/
def uploadedParts (ow : OSSUploader) : List Bytes :=
  match ow.consumer with
  | .receiving _ parts => parts
  | _ => []

/-- The bytes the uploader holds: the uploaded parts, then the buffer. -/
def pending (ow : OSSUploader) : Bytes :=
  ow.uploadedParts.flatten ++ ow.buffer

/-- The uploader before `FinishUpload`, with nothing gone wrong. -/
structure Healthy (ow : OSSUploader) : Prop where
  partSizePos : 0 < ow.partSizeBytes
  notFinished : ow.isFinished = false
  noError : ow.uploadLastError = none
  chanEmpty : ow.multiPartUploadChan = []
  notStored : ow.stored = none
  consumerAlive : (ow.consumer = .notStarted ∧ ow.isUploadStarted = false) ∨
    ∃ n parts, ow.consumer = .receiving n parts ∧ ow.isUploadStarted = true ∧ parts.flatten ≠ []

variable {svc : OssService} {ow : OSSUploader}

theorem NewOSSUploader_healthy
    {partSizeBytes : Nat}
    (positive : 0 < partSizeBytes) :
    (NewOSSUploader partSizeBytes).Healthy :=
  ⟨positive, rfl, rfl, rfl, rfl, .inl ⟨rfl, rfl⟩⟩

theorem receiveParts_succeeds
    (succeeds : svc.AlwaysSucceeds) :
    ∀ (n : Nat) (parts waiting : List Bytes),
      receiveParts svc n parts waiting = (.receiving (n + waiting.length) (parts ++ waiting), [], none) := by
  intro n parts waiting
  induction waiting generalizing n parts with
  | nil => simp [receiveParts]
  | cons buf rest inductionHypothesis =>
    simp only [receiveParts, succeeds.upload, inductionHypothesis, List.length_cons,
      List.append_assoc, List.singleton_append]
    congr 2
    omega

/-- A send to a live goroutine with an empty channel is uploaded as the next
part. -/
theorem appendBuffer_alive
    (succeeds : svc.AlwaysSucceeds)
    (ow : OSSUploader)
    (chanEmpty : ow.multiPartUploadChan = [])
    (noError : ow.uploadLastError = none)
    (alive : (ow.consumer = .notStarted ∧ ow.isUploadStarted = false) ∨
      ∃ n parts, ow.consumer = .receiving n parts ∧ ow.isUploadStarted = true ∧ parts.flatten ≠ [])
    (p : Bytes) :
    ∃ n, appendBuffer svc ow p =
      some { ow with consumer := .receiving n (ow.uploadedParts ++ [p]), isUploadStarted := true } := by
  rcases alive with ⟨notStarted, -⟩ | ⟨n, parts, receiving, uploading, -⟩
  · refine ⟨2, ?_⟩
    simp [OSSUploader.appendBuffer, notStarted, succeeds.create, receiveParts_succeeds succeeds,
      chanEmpty, noError, uploadedParts]
  · refine ⟨n + 1, ?_⟩
    simp [OSSUploader.appendBuffer, receiving, receiveParts_succeeds succeeds, chanEmpty,
      noError, uploadedParts, uploading]

theorem Healthy.appendBuffer
    (healthy : ow.Healthy)
    (succeeds : svc.AlwaysSucceeds)
    (p : Bytes) :
    ∃ n, appendBuffer svc ow p =
      some { ow with consumer := .receiving n (ow.uploadedParts ++ [p]), isUploadStarted := true } :=
  appendBuffer_alive succeeds ow healthy.chanEmpty healthy.noError healthy.consumerAlive p

/-- A healthy `Write` keeps the uploader healthy and adds the bytes to what it
holds. -/
theorem Healthy.Write
    (healthy : ow.Healthy)
    (succeeds : svc.AlwaysSucceeds)
    (p : Bytes) :
    ∃ after, Write svc ow p = some after ∧ after.Healthy ∧ after.pending = ow.pending ++ p := by
  unfold OSSUploader.Write
  by_cases full : ow.partSizeBytes ≤ ow.buffer.length + p.length
  · rw [if_pos full]
    by_cases emptyBuffer : ow.buffer.length = 0
    · -- the part is `p` itself, which is at least a part size long
      rw [if_pos emptyBuffer]
      obtain ⟨n, sent⟩ := healthy.appendBuffer succeeds p
      have partNonempty : p ≠ [] := by
        intro isEmpty
        subst isEmpty
        have := healthy.partSizePos
        simp at full
        omega
      refine ⟨_, sent, ⟨healthy.partSizePos, healthy.notFinished, healthy.noError,
        healthy.chanEmpty, healthy.notStored, .inr ⟨n, _, rfl, rfl, ?_⟩⟩, ?_⟩
      · simp [partNonempty]
      · have bufferEmpty : ow.buffer = [] := List.length_eq_zero_iff.mp emptyBuffer
        simp [pending, uploadedParts, bufferEmpty]
    · -- the part is the buffer followed by `p`
      rw [if_neg emptyBuffer]
      obtain ⟨n, sent⟩ := (show ({ ow with buffer := ow.buffer ++ p } : OSSUploader).Healthy from
        ⟨healthy.partSizePos, healthy.notFinished, healthy.noError, healthy.chanEmpty,
          healthy.notStored, healthy.consumerAlive⟩).appendBuffer succeeds (ow.buffer ++ p)
      rw [sent]
      have bufferNonempty : ow.buffer ≠ [] := fun isEmpty => emptyBuffer (by simp [isEmpty])
      refine ⟨_, rfl, ⟨healthy.partSizePos, healthy.notFinished, healthy.noError,
        healthy.chanEmpty, healthy.notStored, .inr ⟨n, _, rfl, rfl, ?_⟩⟩, ?_⟩
      · simp [bufferNonempty]
      · simp [pending, uploadedParts]
  · rw [if_neg full]
    exact ⟨_, rfl, ⟨healthy.partSizePos, healthy.notFinished, healthy.noError,
      healthy.chanEmpty, healthy.notStored, healthy.consumerAlive⟩, by simp [pending, uploadedParts]⟩

/-- A run of healthy writes through the `io.Writer` view. -/
theorem Healthy.writes
    (healthy : ow.Healthy)
    (succeeds : svc.AlwaysSucceeds) :
    ∀ ps : List Bytes, ∃ after,
      ps.foldl (fun state p => state.bind fun ow => OSSUploader.Write svc ow p) (some ow) =
        some after ∧
        after.Healthy ∧ after.pending = ow.pending ++ ps.flatten := by
  intro ps
  induction ps generalizing ow with
  | nil => exact ⟨ow, rfl, healthy, by simp⟩
  | cons p rest inductionHypothesis =>
    obtain ⟨next, written, nextHealthy, nextPending⟩ := healthy.Write succeeds p
    obtain ⟨after, run, afterHealthy, afterPending⟩ := inductionHypothesis nextHealthy
    refine ⟨after, ?_, afterHealthy, ?_⟩
    · simpa [written] using run
    · simp [afterPending, nextPending]

/-- What the uploader holds is empty exactly when it never sent a part and
its buffer is empty. -/
theorem Healthy.pending_eq_nil_iff
    (healthy : ow.Healthy) :
    ow.pending = [] ↔ ow.isUploadStarted = false ∧ ow.buffer = [] := by
  rcases healthy.consumerAlive with ⟨notStarted, notUploading⟩ | ⟨n, parts, receiving, uploading, nonempty⟩
  · simp [pending, uploadedParts, notStarted, notUploading]
  · simp [pending, uploadedParts, receiving, uploading, nonempty]

/-- A healthy `FinishUpload` succeeds and stores what the uploader holds
(nothing, if it holds nothing). -/
theorem Healthy.FinishUpload
    (healthy : ow.Healthy)
    (succeeds : svc.AlwaysSucceeds) :
    ∃ after, FinishUpload svc ow = some (none, after) ∧ after.isFinished = true ∧
      after.stored = if ow.pending = [] then none else some ow.pending := by
  have empty := healthy.pending_eq_nil_iff
  unfold OSSUploader.FinishUpload
  rw [healthy.notFinished]
  by_cases bufferEmpty : ow.buffer = []
  · rcases healthy.consumerAlive with ⟨notStarted, notUploading⟩ |
      ⟨n, parts, receiving, uploading, nonempty⟩
    · -- nothing was ever sent or buffered: nothing is stored
      simp [bufferEmpty, finishWait, notStarted, healthy.noError, empty, notUploading,
        healthy.notStored]
    · simp [bufferEmpty, finishWait, receiving, succeeds.complete, healthy.noError, pending,
        uploadedParts, nonempty]
  · rcases healthy.consumerAlive with ⟨notStarted, notUploading⟩ |
      ⟨n, parts, receiving, uploading, nonempty⟩
    · -- a small object: one `PutObject` of the buffer
      simp [bufferEmpty, notUploading, succeeds.put, finishWait, notStarted, healthy.noError,
        pending, uploadedParts]
    · -- the buffer is the last part
      obtain ⟨m, sent⟩ := appendBuffer_alive succeeds { ow with isFinished := true }
        healthy.chanEmpty healthy.noError healthy.consumerAlive ow.buffer
      simp only [Bool.false_eq_true, if_false]
      rw [if_pos (by simpa using bufferEmpty), if_pos uploading, sent]
      simp [finishWait, uploadedParts, receiving, succeeds.complete, healthy.noError, pending,
        bufferEmpty]

end OSSUploader

/-! ## The uploader when an S3 call fails, and on no bytes -/

/-- With a part size of one byte, `CreateMultipartUpload` failing: the
goroutine returns before it receives a part, three parts fill the channel and
the fourth `Write` never returns.  With every S3 call succeeding, writing no
bytes (no `Write`, or an empty one) and finishing returns `nil` from
`FinishUpload` without any call: no object is stored. -/
theorem upload_blocks_after_failed_create :
    let failing : OssService := ⟨some "AccessDenied", fun _ => none, none, none⟩
    let succeeding : OssService := ⟨none, fun _ => none, none, none⟩
    let writes := fun (svc : OssService) (ps : List Bytes) =>
      ps.foldl (fun state p => state.bind fun ow => OSSUploader.Write svc ow p)
        (some (NewOSSUploader 1))
    (writes failing [[1], [2], [3]]).isSome = true ∧
      (writes failing [[1], [2], [3], [4]]).isNone = true ∧
      ((writes succeeding []).bind (OSSUploader.FinishUpload succeeding)).map
          (fun result => (result.1, result.2.stored)) = some (none, none) ∧
      ((writes succeeding [[]]).bind (OSSUploader.FinishUpload succeeding)).map
          (fun result => (result.1, result.2.stored)) = some (none, none) := by
  refine ⟨by decide, by decide, by decide, by decide⟩

/-! ## The back ends on RAW uploads -/

section RawUploads

variable {svc : OssService} {csv : CsvFormat} {data : DomainData}

theorem ossWriter_total
    (svc : OssService) :
    ∀ state p, (OSSUploader.writer svc).write state p =
      .ok (state.bind fun ow => OSSUploader.Write svc ow p) :=
  fun _ _ => rfl

theorem ossPartSizeBytes_pos :
    0 < ossPartSizeBytes := by
  decide

/-- The OSS back end with a succeeding S3, on records whose columns are all
base binary: `Write` returns `nil` and the object holds the concatenated
values, whatever error ended the stream. -/
theorem ossWrite_raw_stores_values
    (succeeds : svc.AlwaysSucceeds)
    {records : List Record}
    {values : List Bytes}
    (found : recordValues records = some values)
    (err : Option String) :
    BuiltinOssIOWrite svc csv data .RAW (some ⟨records, err⟩) =
      ⟨some none, if values.flatten = [] then none else some values.flatten⟩ := by
  obtain ⟨after, run, healthy, afterPending⟩ :=
    (OSSUploader.NewOSSUploader_healthy ossPartSizeBytes_pos).writes succeeds values
  obtain ⟨finished, finish, isFinished, stored⟩ := healthy.FinishUpload succeeds
  have holds : after.pending = values.flatten := by
    simpa [OSSUploader.pending, OSSUploader.uploadedParts, NewOSSUploader] using afterPending
  -- the deferred `Close` finds the upload finished and changes nothing
  have closed : OSSUploader.FinishUpload svc finished = some (some "had called FinishUpload", finished) := by
    simp [OSSUploader.FinishUpload, isFinished]
  simp only [BuiltinOssIOWrite, FlightStreamToDataProxyContentBinary,
    writeRecords_total (ossWriter_total svc) data _ records values found, run, Option.bind_some,
    finish, closed, Option.elim, stored, holds]

/-- Two records, one with a binary and a large-binary column, from a stream
that ended with an error: the object holds the four bytes. -/
theorem ossWrite_raw_stores_values_twoRecords :
    OssService.AlwaysSucceeds ⟨none, fun _ => none, none, none⟩ ∧
      recordValues [⟨[.binary [[1, 2], [3]], .baseBinary "large_binary"]⟩, ⟨[.binary [[4]]]⟩] =
        some [[1, 2], [3], [4]] ∧
      BuiltinOssIOWrite ⟨none, fun _ => none, none, none⟩ ⟨[], fun _ => []⟩ ⟨"dd"⟩ .RAW
          (some ⟨[⟨[.binary [[1, 2], [3]], .baseBinary "large_binary"]⟩, ⟨[.binary [[4]]]⟩],
            some "unexpected EOF"⟩) =
        ⟨some none, some [1, 2, 3, 4]⟩ :=
  have succeeds : OssService.AlwaysSucceeds ⟨none, fun _ => none, none, none⟩ :=
    ⟨rfl, fun _ => rfl, rfl, rfl⟩
  have found : recordValues [⟨[.binary [[1, 2], [3]], .baseBinary "large_binary"]⟩, ⟨[.binary [[4]]]⟩] =
      some [[1, 2], [3], [4]] := rfl
  ⟨succeeds, found, ossWrite_raw_stores_values succeeds found (some "unexpected EOF")⟩

/-- The OSS back end with a succeeding S3, on a stream with a record that is
not base binary: `Write` returns the column error, and the deferred `Close`
stores the values of the records before it. -/
theorem ossWrite_raw_error_stores_prefix
    (succeeds : svc.AlwaysSucceeds)
    {good rest : List Record}
    {values : List Bytes}
    (found : recordValues good = some values)
    (dataType : String)
    (columns : List Column)
    (err : Option String) :
    BuiltinOssIOWrite svc csv data .RAW
        (some ⟨good ++ ⟨.other dataType :: columns⟩ :: rest, err⟩) =
      ⟨some (some s!"domaindata({data.domaindataId}) input data is not binary. type={dataType}"),
        if values.flatten = [] then none else some values.flatten⟩ := by
  obtain ⟨after, run, healthy, afterPending⟩ :=
    (OSSUploader.NewOSSUploader_healthy ossPartSizeBytes_pos).writes succeeds values
  obtain ⟨finished, finish, -, stored⟩ := healthy.FinishUpload succeeds
  have holds : after.pending = values.flatten := by
    simpa [OSSUploader.pending, OSSUploader.uploadedParts, NewOSSUploader] using afterPending
  simp only [BuiltinOssIOWrite, FlightStreamToDataProxyContentBinary,
    writeRecords_total_other (ossWriter_total svc) data dataType columns rest _ good values found,
    run, Option.map_some, finish, Option.elim, stored, holds]

/-- The local file collects what is written to it. -/
theorem foldl_fileWrite_content :
    ∀ (values : List Bytes) (file : LocalFile),
      (values.foldl (fun file p => ⟨file.content ++ p, file.writes + 1⟩) file).content =
        file.content ++ values.flatten := by
  intro values
  induction values with
  | nil => simp
  | cons value rest inductionHypothesis =>
    intro file
    simp [inductionHypothesis]

/-- The local file back end, when every write succeeds, on records whose
columns are all base binary: `Write` returns `nil` and the file holds the
concatenated values, whatever error ended the stream. -/
theorem localWrite_raw_stores_values
    {records : List Record}
    {values : List Bytes}
    (found : recordValues records = some values)
    (err : Option String) :
    BuiltinLocalFileIOWrite none (fun _ => none) csv data .RAW (some ⟨records, err⟩) =
      ⟨some none, some values.flatten⟩ := by
  have total : ∀ file p, (fileWriter fun _ => none).write file p =
      .ok ⟨file.content ++ p, file.writes + 1⟩ :=
    fun _ _ => rfl
  simp only [BuiltinLocalFileIOWrite, FlightStreamToDataProxyContentBinary,
    writeRecords_total total data _ records values found, foldl_fileWrite_content, List.nil_append]

/-- The same records written to a local file. -/
theorem localWrite_raw_stores_values_twoRecords :
    recordValues [⟨[.binary [[1, 2], [3]], .baseBinary "large_binary"]⟩, ⟨[.binary [[4]]]⟩] =
        some [[1, 2], [3], [4]] ∧
      BuiltinLocalFileIOWrite none (fun _ => none) ⟨[], fun _ => []⟩ ⟨"dd"⟩ .RAW
          (some ⟨[⟨[.binary [[1, 2], [3]], .baseBinary "large_binary"]⟩, ⟨[.binary [[4]]]⟩], none⟩) =
        ⟨some none, some [1, 2, 3, 4]⟩ :=
  have found : recordValues [⟨[.binary [[1, 2], [3]], .baseBinary "large_binary"]⟩, ⟨[.binary [[4]]]⟩] =
      some [[1, 2], [3], [4]] := rfl
  ⟨found, localWrite_raw_stores_values found none⟩

end RawUploads

end Kuscia.DataMesh
