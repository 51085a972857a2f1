import Mathlib

namespace Kuscia.Store

/-!
# The agent's OCI image store

The store is an OCI image layout: `index.json` lists descriptors (a media type,
a manifest digest and the `org.opencontainers.image.ref.name` annotation), and
`blobs/` holds files named by the digest of their content.  A manifest blob
names its image's config and layer blobs.  Since blobs are content addressed,
what a manifest digest names is fixed once for all states (`manifestOf`), and a
state records only which blob files are present.

go-containerregistry's layout operations act on this state as documented:
`WriteImage` writes the layer, config and manifest blobs; `ReplaceImage` writes
the image and replaces the descriptors its matcher selects by one for the image;
`RemoveDescriptors` drops the descriptors its matcher selects; `RemoveBlob`
deletes one blob file, and a missing file is not an error.

The store writes two kinds of image.  `LoadImage` stores what `flattenImage`
makes of a tarball: the tarball's config and one layer, `combineLayers`'s
extract of the whole file system.  `RegisterImage` stores a config on
`empty.Image`, with no layer.  Both are Docker schema 2 manifests.

`removeImageFile` deletes every descriptor with the removed image's digest and
every blob the image consists of, whoever else uses them.  Every name of the
image goes, a second one from `TagImage` too, as `crictl rmi` does
(`removeImage_drops_every_name`).  Two images with the same file system
flatten to the same combined layer, and removing one deletes the layer the
other still names (`remove_image_deletes_shared_layer`).  What does hold:
`removeImage_keeps_other_images` (a name resolving to another digest still
resolves to the same image) and `run_intact_without_removal` (loads, registers
and tags keep every descriptor's blobs present).
-/

/-- The media types `getImageName` tells apart. -/
inductive MediaType where
  | dockerManifestSchema2
  | other
  deriving DecidableEq, Repr

/-- An entry of `index.json`.  Of its annotations only the ref name is read. -/
structure Descriptor where
  mediaType : MediaType
  digest : String
  refName : Option String
  deriving DecidableEq, Repr

/-- What a manifest blob says: the manifest's media type and the digests of the
image's config and layers. -/
structure Manifest where
  mediaType : MediaType
  configName : String
  layers : List String
  deriving DecidableEq, Repr

/-- A `v1.Image`: the digest of its manifest, and the manifest. -/
structure Image where
  digest : String
  manifest : Manifest
  deriving DecidableEq, Repr

/-- The blobs an image consists of: its manifest, config and layers. -/
def Image.blobNames (img : Image) : List String :=
  img.digest :: img.manifest.configName :: img.manifest.layers

/-- An image layout on disk: the descriptors of `index.json` in order, and the
names of the blob files present. -/
structure OciStore where
  index : List Descriptor
  blobs : List String
  deriving DecidableEq, Repr

/-- A layout nothing has been written to. -/
def OciStore.empty : OciStore :=
  ⟨[], []⟩

/-! ## go-containerregistry's layout operations -/

/-- `layout.Path.WriteImage`: the layers, the config and the manifest are
written as blobs. -/
def writeImage (store : OciStore) (img : Image) : OciStore :=
  { store with
    blobs := store.blobs ++ img.manifest.layers ++ [img.manifest.configName, img.digest] }

/-- `layout.Path.ReplaceImage`: write the image, drop the descriptors the
matcher selects and append one for the image, with its ref-name annotation. -/
def replaceImage
    (store : OciStore)
    (img : Image)
    (matcher : Descriptor → Bool)
    (refName : String) :
    OciStore :=
  let written := writeImage store img
  { written with
    index := written.index.filter (fun d => !matcher d) ++
      [⟨img.manifest.mediaType, img.digest, some refName⟩] }

/-- `layout.Path.RemoveDescriptors`. -/
def removeDescriptors (store : OciStore) (matcher : Descriptor → Bool) : OciStore :=
  { store with index := store.index.filter (fun d => !matcher d) }

/-- `layout.Path.RemoveBlob`: delete one blob file. -/
def removeBlob (store : OciStore) (digest : String) : OciStore :=
  { store with blobs := store.blobs.filter (fun b => b != digest) }

/-- `match.Name`: the descriptors whose ref-name annotation is `name`. -/
def matchName (name : String) (d : Descriptor) : Bool :=
  d.refName == some name

/-- `match.Digests` of one digest. -/
def matchDigests (digest : String) (d : Descriptor) : Bool :=
  d.digest == digest

@[simp] theorem writeImage_index
    (store : OciStore)
    (img : Image) :
    (writeImage store img).index = store.index :=
  rfl

@[simp] theorem removeBlob_index
    (store : OciStore)
    (digest : String) :
    (removeBlob store digest).index = store.index :=
  rfl

theorem mem_writeImage
    {store : OciStore}
    {img : Image}
    {b : String} :
    b ∈ (writeImage store img).blobs ↔ b ∈ store.blobs ∨ b ∈ img.blobNames := by
  simp only [writeImage, Image.blobNames, List.mem_append, List.mem_cons, List.not_mem_nil,
    or_false]
  tauto

theorem mem_removeBlob
    {store : OciStore}
    {digest b : String} :
    b ∈ (removeBlob store digest).blobs ↔ b ∈ store.blobs ∧ b ≠ digest := by
  simp [removeBlob]

/-- Deleting the layers one after the other. -/
theorem foldl_removeBlob
    (layers : List String) :
    ∀ (store : OciStore),
      (layers.foldl removeBlob store).index = store.index ∧
      ∀ b, b ∈ (layers.foldl removeBlob store).blobs ↔ b ∈ store.blobs ∧ b ∉ layers := by
  induction layers with
  | nil =>
    intro store
    simp
  | cons layer rest inductionHypothesis =>
    intro store
    obtain ⟨indexSame, blobsIff⟩ := inductionHypothesis (removeBlob store layer)
    refine ⟨indexSame, fun b => ?_⟩
    rw [List.foldl_cons, blobsIff, mem_removeBlob, List.mem_cons]
    tauto

/-! ## The store -/

/-- `getImageName`: the ref name of a Docker schema 2 descriptor. -/
def getImageName (img : Descriptor) : Option String :=
  if img.mediaType = .dockerManifestSchema2 then img.refName else none

/-- `common.ImageIDPrefix`. -/
def imageIDPrefix : String :=
  "sha256:"

/-- The test of the loops of `findImageFromLocal` and `removeImgByTagOrID`: the
descriptor's name is the argument, or its digest starts with `sha256:` and the
argument. -/
def selects (imageNameOrID : String) (img : Descriptor) : Bool :=
  getImageName img == some imageNameOrID ||
    (imageIDPrefix ++ imageNameOrID).toList.isPrefixOf img.digest.toList

/-- `defaultRegistry`. -/
def defaultRegistry : String :=
  "docker.io"

/-- `defaultRepository`. -/
def defaultRepository : String :=
  "library"

/-- `CheckTagCompliance`: a name without registry or repository gets the
defaults. -/
def CheckTagCompliance (targetImage : String) : String :=
  let parts := targetImage.toList.splitOn '/'
  if parts.length = 1 then
    defaultRegistry ++ "/" ++ defaultRepository ++ "/" ++ targetImage
  else if 1 < parts.length && !(parts.headD []).contains '.' then
    defaultRegistry ++ "/" ++ targetImage
  else
    targetImage

/-- `flattenImage`: a config on `empty.Image` with the history and diff IDs
reset, and appended to it the one layer `combineLayers` extracts of the whole
image; `digest`, `configName` and `combinedLayer` are the digests of that
manifest, config and layer. -/
def flattenImage (digest configName combinedLayer : String) : Image :=
  ⟨digest, ⟨.dockerManifestSchema2, configName, [combinedLayer]⟩⟩

/-- `mutate.ConfigFile(empty.Image, cf)`: a config and no layer. -/
def configImage (digest configName : String) : Image :=
  ⟨digest, ⟨.dockerManifestSchema2, configName, []⟩⟩

/-- `LoadImage` once the tarball is read: `tag` is the name `findTagNameInFile`
found, and the image stored is the one `flattenImage` made of the tarball. -/
def LoadImage (store : OciStore) (tag digest configName combinedLayer : String) : OciStore :=
  let tag := CheckTagCompliance tag
  replaceImage store (flattenImage digest configName combinedLayer) (matchName tag) tag

/-- `RegisterImage` once the image is built from its config. -/
def RegisterImage (store : OciStore) (tag digest configName : String) : OciStore :=
  replaceImage store (configImage digest configName) (matchName tag) tag

/-- `isImageID`: at least 4 and at most 64 lowercase hex digits after an
optional `sha256:`.  Go counts bytes where this counts characters; the two
differ only on a non-ASCII character, which fails the digit test either way. -/
def isImageID (id : String) : Bool :=
  let id :=
    if imageIDPrefix.toList.isPrefixOf id.toList then id.toList.drop imageIDPrefix.toList.length
    else id.toList
  4 ≤ id.length && id.length ≤ 64 &&
    id.all fun c => decide (('0' ≤ c ∧ c ≤ '9') ∨ ('a' ≤ c ∧ c ≤ 'f'))

/-- The name `RemoveImage` looks up: a name that is not an image ID and has no
tag gets `:latest`. -/
def newImageNameOrID (imageNameOrID : String) : String :=
  if !isImageID imageNameOrID && !imageNameOrID.toList.contains ':' then
    imageNameOrID ++ ":latest"
  else
    imageNameOrID

/-- `removeImageFile`: every descriptor with the image's digest, then its config,
manifest and layer blobs. -/
def removeImageFile (store : OciStore) (img : Image) : OciStore :=
  let store := removeDescriptors store (matchDigests img.digest)
  let store := removeBlob store img.manifest.configName
  let store := removeBlob store img.digest
  img.manifest.layers.foldl removeBlob store

theorem removeImageFile_index
    (store : OciStore)
    (img : Image) :
    (removeImageFile store img).index = store.index.filter (fun d => !matchDigests img.digest d) := by
  simp [removeImageFile, (foldl_removeBlob _ _).1, removeDescriptors]

theorem mem_removeImageFile
    {store : OciStore}
    {img : Image}
    {b : String} :
    b ∈ (removeImageFile store img).blobs ↔ b ∈ store.blobs ∧ b ∉ img.blobNames := by
  simp only [removeImageFile, (foldl_removeBlob _ _).2, mem_removeBlob, removeDescriptors,
    Image.blobNames, List.mem_cons]
  tauto

section Layout

-- What each manifest digest addresses: a blob's content is fixed by its digest,
-- whichever state it is read in.
variable (manifestOf : String → Option Manifest)

/-- `layout.Path.Image`: the image whose manifest blob is `digest`. -/
def image (store : OciStore) (digest : String) : Except String Image :=
  if digest ∈ store.blobs then
    match manifestOf digest with
    | some manifest => .ok ⟨digest, manifest⟩
    | none => .error ("blob " ++ digest ++ " is not an image manifest")
  else
    .error ("open blobs/" ++ digest ++ ": no such file or directory")

/-- `findImageFromLocal`: the image of the first descriptor selected. -/
def findImageFromLocal (store : OciStore) (imageNameOrID : String) :
    Except String (Option Image) :=
  match store.index.find? (selects imageNameOrID) with
  | some img => (image manifestOf store img.digest).map some
  | none => .ok none

/-- `TagImage` on the names' full forms. -/
def TagImage (store : OciStore) (sourceImage targetImage : String) : Except String OciStore := do
  match ← findImageFromLocal manifestOf store sourceImage with
  | some org => pure (replaceImage store org (matchName targetImage) targetImage)
  | none => throw ("not found input image: " ++ sourceImage)

/-- `removeImgByTagOrID`: the image of the first descriptor selected is
removed; when there is none, "No such image" is only logged. -/
def removeImgByTagOrID (store : OciStore) (imageNameOrID : String) : Except String OciStore :=
  match store.index.find? (selects imageNameOrID) with
  | some img => do
    let found ← image manifestOf store img.digest
    pure (removeImageFile store found)
  | none => pure store

/-- The loop of `RemoveImage` over the names: it stops at the first error, and
what the names before it removed stays removed. -/
def removeEach (store : OciStore) : List String → OciStore × Option String
  | [] => (store, none)
  | imageNameOrID :: rest =>
    match removeImgByTagOrID manifestOf store (newImageNameOrID imageNameOrID) with
    | .ok removed => removeEach removed rest
    | .error message => (store, some message)

/-- `RemoveImage`: the store after the call and the error it returned.  When no
descriptor is named (`getAllDigests` is empty) nothing is removed, not even by
image ID. -/
def RemoveImage (store : OciStore) (imageNameOrIDs : List String) :
    OciStore × Option String :=
  if store.index.all fun img => (getImageName img).isNone then (store, none)
  else removeEach manifestOf store imageNameOrIDs

/-- The digests of a flattened image, with its manifest's digest that of its
manifest. -/
structure FlatImage where
  digest : String
  configName : String
  combinedLayer : String
  addressed : manifestOf digest = some (flattenImage digest configName combinedLayer).manifest

/-- The flattened image itself. -/
def FlatImage.image (flat : FlatImage manifestOf) : Image :=
  flattenImage flat.digest flat.configName flat.combinedLayer

/-- The digests of an image built from a config, addressed likewise. -/
structure ConfigImage where
  digest : String
  configName : String
  addressed : manifestOf digest = some (configImage digest configName).manifest

/-- A call of the store's interface. -/
inductive Action where
  | loadImage (tag : String) (flat : FlatImage manifestOf)
  | registerImage (tag : String) (img : ConfigImage manifestOf)
  | tagImage (sourceImage targetImage : String)
  | removeImage (imageNameOrIDs : List String)

/-- Whether a call deletes anything. -/
def Action.removes : Action manifestOf → Bool
  | .removeImage _ => true
  | _ => false

/-- One call, under the store's mutex: the store after it and the error it
returned. -/
def step (store : OciStore) : Action manifestOf → OciStore × Option String
  | .loadImage tag flat =>
    (LoadImage store tag flat.digest flat.configName flat.combinedLayer, none)
  | .registerImage tag img => (RegisterImage store tag img.digest img.configName, none)
  | .tagImage sourceImage targetImage =>
    match TagImage manifestOf store sourceImage targetImage with
    | .ok tagged => (tagged, none)
    | .error message => (store, some message)
  | .removeImage imageNameOrIDs => RemoveImage manifestOf store imageNameOrIDs

/-- The store after a sequence of calls. -/
def run (store : OciStore) : List (Action manifestOf) → OciStore
  | [] => store
  | action :: rest => run ((step manifestOf store action).1) rest

/-! ## Every descriptor's blobs are present -/

/-- A descriptor whose digest is a manifest whose blobs, config and layers are
all present. -/
def DescriptorIntact (store : OciStore) (d : Descriptor) : Prop :=
  ∃ manifest ∈ manifestOf d.digest, ∀ b ∈ (Image.mk d.digest manifest).blobNames, b ∈ store.blobs

instance (store : OciStore) (d : Descriptor) : Decidable (DescriptorIntact manifestOf store d) :=
  inferInstanceAs (Decidable (∃ manifest ∈ manifestOf d.digest, _))

/-- Every descriptor of the index is intact. -/
def IndexIntact (store : OciStore) : Prop :=
  ∀ d ∈ store.index, DescriptorIntact manifestOf store d

instance (store : OciStore) : Decidable (IndexIntact manifestOf store) :=
  inferInstanceAs (Decidable (∀ d ∈ store.index, _))

/-- Content addressing: the config and layer blobs of an image are never
manifests themselves, since their contents are not. -/
def LayersAreNotManifests : Prop :=
  ∀ digest manifest, manifestOf digest = some manifest →
    manifestOf manifest.configName = none ∧ ∀ layer ∈ manifest.layers, manifestOf layer = none

/-! ## Three flattened images -/

/-- The manifests of an application image, a tool image, and a debug build of
the application with the application's file system and another config. -/
def appManifests (digest : String) : Option Manifest :=
  if digest = "sha256:aa00" then
    some (flattenImage "sha256:aa00" "sha256:aac0" "sha256:aa10").manifest
  else if digest = "sha256:bb00" then
    some (flattenImage "sha256:bb00" "sha256:bbc0" "sha256:bb10").manifest
  else if digest = "sha256:cc00" then
    some (flattenImage "sha256:cc00" "sha256:ccc0" "sha256:aa10").manifest
  else none

theorem appManifests_layersAreNotManifests :
    LayersAreNotManifests appManifests := by
  intro digest manifest addressed
  unfold appManifests at addressed
  split_ifs at addressed <;> cases addressed <;> decide

/-- The application image. -/
def appImage : FlatImage appManifests :=
  ⟨"sha256:aa00", "sha256:aac0", "sha256:aa10", by decide⟩

/-- The tool image. -/
def toolImage : FlatImage appManifests :=
  ⟨"sha256:bb00", "sha256:bbc0", "sha256:bb10", by decide⟩

/-- The debug image, whose file system flattens to the application's layer. -/
def debugImage : FlatImage appManifests :=
  ⟨"sha256:cc00", "sha256:ccc0", "sha256:aa10", by decide⟩

variable {manifestOf}

/-- Adding blobs keeps a descriptor intact. -/
theorem DescriptorIntact.mono
    {store grown : OciStore}
    {d : Descriptor}
    (intact : DescriptorIntact manifestOf store d)
    (grows : ∀ b ∈ store.blobs, b ∈ grown.blobs) :
    DescriptorIntact manifestOf grown d := by
  obtain ⟨manifest, addressed, present⟩ := intact
  exact ⟨manifest, addressed, fun b member => grows b (present b member)⟩

/-- The descriptor `ReplaceImage` appends for an image whose blobs were written. -/
theorem descriptorIntact_of_written
    {store : OciStore}
    {img : Image}
    (addressed : manifestOf img.digest = some img.manifest)
    (mediaType : MediaType)
    (refName : Option String) :
    DescriptorIntact manifestOf (writeImage store img) ⟨mediaType, img.digest, refName⟩ :=
  ⟨img.manifest, addressed, fun _ member => mem_writeImage.mpr (Or.inr member)⟩

/-- `ReplaceImage` of an addressed image keeps the index intact. -/
theorem replaceImage_intact
    {store : OciStore}
    {img : Image}
    (matcher : Descriptor → Bool)
    (refName : String)
    (addressed : manifestOf img.digest = some img.manifest)
    (intact : IndexIntact manifestOf store) :
    IndexIntact manifestOf (replaceImage store img matcher refName) := by
  have grows : ∀ b ∈ store.blobs, b ∈ (writeImage store img).blobs :=
    fun _ member => mem_writeImage.mpr (Or.inl member)
  intro d member
  simp only [replaceImage, List.mem_append, List.mem_filter, List.mem_singleton] at member
  rcases member with ⟨kept, _⟩ | rfl
  · -- a descriptor the matcher left: its blobs are still there
    exact (intact d kept).mono grows
  · exact descriptorIntact_of_written addressed _ _

/-- `layout.Path.Image` returns the image its digest addresses. -/
theorem image_addressed
    {store : OciStore}
    {digest : String}
    {img : Image}
    (read : image manifestOf store digest = .ok img) :
    img.digest = digest ∧ manifestOf img.digest = some img.manifest := by
  unfold image at read
  split at read
  · split at read
    · rename_i manifest addressed
      cases read
      exact ⟨rfl, addressed⟩
    · cases read
  · cases read

/-- The image `findImageFromLocal` returns is read from the first descriptor
selected. -/
theorem findImageFromLocal_eq_some
    {store : OciStore}
    {imageNameOrID : String}
    {img : Image}
    (found : findImageFromLocal manifestOf store imageNameOrID = .ok (some img)) :
    ∃ d, store.index.find? (selects imageNameOrID) = some d ∧
      image manifestOf store d.digest = .ok img := by
  unfold findImageFromLocal at found
  split at found
  · rename_i d first
    refine ⟨d, first, ?_⟩
    cases read : image manifestOf store d.digest with
    | ok value =>
      rw [read] at found
      cases found
      rfl
    | error message =>
      rw [read] at found
      cases found
  · cases found

/-- A successful `TagImage` is a `ReplaceImage` of an addressed image. -/
theorem TagImage_intact
    {store tagged : OciStore}
    {sourceImage targetImage : String}
    (tag : TagImage manifestOf store sourceImage targetImage = .ok tagged)
    (intact : IndexIntact manifestOf store) :
    IndexIntact manifestOf tagged := by
  unfold TagImage at tag
  cases found : findImageFromLocal manifestOf store sourceImage with
  | error message =>
    rw [found] at tag
    cases tag
  | ok org =>
    rw [found] at tag
    cases org with
    | none => cases tag
    | some org =>
      cases tag
      obtain ⟨d, _, read⟩ := findImageFromLocal_eq_some found
      exact replaceImage_intact _ _ (image_addressed read).2 intact

/-- A call that deletes nothing keeps the index intact. -/
theorem step_intact
    {store : OciStore}
    {action : Action manifestOf}
    (keeps : action.removes = false)
    (intact : IndexIntact manifestOf store) :
    IndexIntact manifestOf (step manifestOf store action).1 := by
  cases action with
  | loadImage tag flat =>
    exact replaceImage_intact _ _ flat.addressed intact
  | registerImage tag img =>
    exact replaceImage_intact _ _ img.addressed intact
  | tagImage sourceImage targetImage =>
    simp only [step]
    split
    · rename_i tagged tag
      exact TagImage_intact tag intact
    · exact intact
  | removeImage imageNameOrIDs =>
    cases keeps

/-- Along any sequence of loads, registers and tags, every descriptor of the
index keeps its manifest, config and layer blobs. -/
theorem run_intact_without_removal
    (actions : List (Action manifestOf)) :
    ∀ (store : OciStore),
      (∀ action ∈ actions, action.removes = false) →
      IndexIntact manifestOf store →
      IndexIntact manifestOf (run manifestOf store actions) := by
  induction actions with
  | nil =>
    intro store _ intact
    exact intact
  | cons action rest inductionHypothesis =>
    intro store keep intact
    exact inductionHypothesis _
      (fun later member => keep later (List.mem_cons_of_mem action member))
      (step_intact (keep action List.mem_cons_self) intact)

theorem run_intact_without_removal_loadAndTag :
    IndexIntact appManifests
      (run appManifests .empty
        [.loadImage "secretflow/app:v1" appImage, .loadImage "secretflow/tool:v1" toolImage,
          .tagImage "docker.io/secretflow/app:v1" "docker.io/secretflow/app:v2"]) :=
  run_intact_without_removal _ _ (by decide) (by decide)

/-! ## What removing one name leaves -/

/-- Reading an image looks only at whether its manifest blob is present. -/
theorem image_congr
    {store other : OciStore}
    {digest : String}
    (present : digest ∈ other.blobs ↔ digest ∈ store.blobs) :
    image manifestOf other digest = image manifestOf store digest := by
  simp only [image, present]

theorem findImageFromLocal_addressed
    {store : OciStore}
    {imageNameOrID : String}
    {img : Image}
    (found : findImageFromLocal manifestOf store imageNameOrID = .ok (some img)) :
    manifestOf img.digest = some img.manifest := by
  obtain ⟨_, _, read⟩ := findImageFromLocal_eq_some found
  exact (image_addressed read).2

/-- A manifest other than the removed image's is none of its blobs. -/
theorem not_mem_blobNames
    (apart : LayersAreNotManifests manifestOf)
    {removed : Image}
    {digest : String}
    {manifest : Manifest}
    (removedAddressed : manifestOf removed.digest = some removed.manifest)
    (addressed : manifestOf digest = some manifest)
    (differs : digest ≠ removed.digest) :
    digest ∉ removed.blobNames := by
  obtain ⟨configNotManifest, layersNotManifests⟩ := apart _ _ removedAddressed
  simp only [Image.blobNames, List.mem_cons, not_or]
  refine ⟨differs, ?_, ?_⟩
  · rintro rfl
    rw [configNotManifest] at addressed
    cases addressed
  · intro layer
    rw [layersNotManifests digest layer] at addressed
    cases addressed

/-- The first element a predicate selects stays first when a filter keeps it. -/
theorem find?_filter_of_find?
    {α : Type}
    {selected kept : α → Bool}
    {xs : List α}
    {a : α}
    (first : xs.find? selected = some a)
    (keeps : kept a = true) :
    (xs.filter kept).find? selected = some a := by
  obtain ⟨selectsA, before, after, split, notBefore⟩ := List.find?_eq_some_iff_append.mp first
  rw [List.find?_filter, List.find?_eq_some_iff_append]
  refine ⟨by simp [keeps, selectsA], before, after, split, fun b member => ?_⟩
  have notSelected := notBefore b member
  simp_all

/-- `removeImgByTagOrID` removes the image `findImageFromLocal` finds. -/
theorem removeImgByTagOrID_of_found
    {store : OciStore}
    {imageNameOrID : String}
    {img : Image}
    (found : findImageFromLocal manifestOf store imageNameOrID = .ok (some img)) :
    removeImgByTagOrID manifestOf store imageNameOrID = .ok (removeImageFile store img) := by
  obtain ⟨d, first, read⟩ := findImageFromLocal_eq_some found
  unfold removeImgByTagOrID
  rw [first]
  simp only [read]
  rfl

/-- A name whose image keeps all its blobs resolves as before the removal. -/
theorem findImageFromLocal_removeImageFile
    {store : OciStore}
    {removed kept : Image}
    {other : String}
    (found : findImageFromLocal manifestOf store other = .ok (some kept))
    (untouched : kept.digest ∉ removed.blobNames) :
    findImageFromLocal manifestOf (removeImageFile store removed) other = .ok (some kept) := by
  obtain ⟨d, first, read⟩ := findImageFromLocal_eq_some found
  have sameDigest : kept.digest = d.digest := (image_addressed read).1
  have notRemoved : matchDigests removed.digest d = false := by
    have differs : kept.digest ≠ removed.digest := fun same =>
      untouched (same ▸ List.mem_cons_self)
    simpa [matchDigests, ← sameDigest] using differs
  have stillFirst : (removeImageFile store removed).index.find? (selects other) = some d := by
    rw [removeImageFile_index]
    exact find?_filter_of_find? first (by simp [notRemoved])
  have presentSame :
      d.digest ∈ (removeImageFile store removed).blobs ↔ d.digest ∈ store.blobs := by
    rw [mem_removeImageFile, and_iff_left (sameDigest ▸ untouched)]
  unfold findImageFromLocal
  rw [stillFirst]
  simp only [image_congr presentSame, read]
  rfl

/-- Removing one name keeps every other name that resolved to an image with
another digest resolving to that image. -/
theorem removeImage_keeps_other_images
    (apart : LayersAreNotManifests manifestOf)
    {store : OciStore}
    {name other : String}
    {removed kept : Image}
    (removedFound :
      findImageFromLocal manifestOf store (newImageNameOrID name) = .ok (some removed))
    (keptFound : findImageFromLocal manifestOf store other = .ok (some kept))
    (otherDigest : kept.digest ≠ removed.digest) :
    findImageFromLocal manifestOf (RemoveImage manifestOf store [name]).1 other =
      .ok (some kept) := by
  unfold RemoveImage
  split
  · exact keptFound
  · -- the one name removes the image it resolves to, and nothing fails
    simp only [removeEach, removeImgByTagOrID_of_found removedFound]
    exact findImageFromLocal_removeImageFile keptFound
      (not_mem_blobNames apart (findImageFromLocal_addressed removedFound)
        (findImageFromLocal_addressed keptFound) otherDigest)

theorem removeImage_keeps_other_images_tool :
    findImageFromLocal appManifests
        (RemoveImage appManifests
          (run appManifests .empty
            [.loadImage "secretflow/app:v1" appImage, .loadImage "secretflow/tool:v1" toolImage])
          ["docker.io/secretflow/app:v1"]).1
        "docker.io/secretflow/tool:v1" = .ok (some toolImage.image) :=
  @removeImage_keeps_other_images appManifests appManifests_layersAreNotManifests _ _ _
    appImage.image _ (by decide) (by decide) (by decide)

/-- Where some descriptor carries a Docker name, removing a name that resolves
to an image leaves exactly the descriptors of other digests: every name of the
image goes. -/
theorem removeImage_drops_every_name
    {store : OciStore}
    (named : store.index.any fun d => (getImageName d).isSome)
    {name : String}
    {removed : Image}
    (found : findImageFromLocal manifestOf store (newImageNameOrID name) = .ok (some removed)) :
    (RemoveImage manifestOf store [name]).1.index =
      store.index.filter fun d => d.digest != removed.digest := by
  have someNamed : (store.index.all fun d => (getImageName d).isNone) = false := by
    simpa [List.any_eq_true, List.all_eq_false, Option.isSome_iff_ne_none] using named
  simp only [RemoveImage, someNamed, Bool.false_eq_true, if_false, removeEach,
    removeImgByTagOrID_of_found found, removeImageFile_index]
  rfl

/-- The application and tool images loaded, and the application tagged `v2`. -/
def appToolTagged : List (Action appManifests) :=
  [.loadImage "secretflow/app:v1" appImage, .loadImage "secretflow/tool:v1" toolImage,
    .tagImage "docker.io/secretflow/app:v1" "docker.io/secretflow/app:v2"]

theorem removeImage_drops_every_name_tagged :
    ((run appManifests .empty appToolTagged).index.any fun d => (getImageName d).isSome) ∧
      findImageFromLocal appManifests (run appManifests .empty appToolTagged)
          (newImageNameOrID "docker.io/secretflow/app:v1") = .ok (some appImage.image) ∧
      (RemoveImage appManifests (run appManifests .empty appToolTagged)
          ["docker.io/secretflow/app:v1"]).1.index =
        (run appManifests .empty appToolTagged).index.filter
          fun d => d.digest != appImage.image.digest :=
  have named :
      (run appManifests .empty appToolTagged).index.any fun d => (getImageName d).isSome := by
    decide
  have found : findImageFromLocal appManifests (run appManifests .empty appToolTagged)
      (newImageNameOrID "docker.io/secretflow/app:v1") = .ok (some appImage.image) := by
    decide
  ⟨named, found, removeImage_drops_every_name named found⟩

/-- The application and its debug build flatten to one layer; removing the
application deletes it while the debug image's name still resolves. -/
theorem remove_image_deletes_shared_layer :
    IndexIntact appManifests
        (run appManifests .empty
          [.loadImage "secretflow/app:v1" appImage, .loadImage "secretflow/app:debug" debugImage]) ∧
      findImageFromLocal appManifests
          (run appManifests .empty
            [.loadImage "secretflow/app:v1" appImage, .loadImage "secretflow/app:debug" debugImage,
              .removeImage ["docker.io/secretflow/app:v1"]])
          "docker.io/secretflow/app:debug" = .ok (some debugImage.image) ∧
      "sha256:aa10" ∉
        (run appManifests .empty
          [.loadImage "secretflow/app:v1" appImage, .loadImage "secretflow/app:debug" debugImage,
            .removeImage ["docker.io/secretflow/app:v1"]]).blobs ∧
      ¬ IndexIntact appManifests
        (run appManifests .empty
          [.loadImage "secretflow/app:v1" appImage, .loadImage "secretflow/app:debug" debugImage,
            .removeImage ["docker.io/secretflow/app:v1"]]) := by
  refine ⟨?_, ?_, ?_, ?_⟩ <;> decide

end Layout

end Kuscia.Store
