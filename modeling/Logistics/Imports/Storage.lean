import Logistics.Imports.Service
import Logistics.Library.Files
import Logistics.Library.Paths

/-!
# Where import files lie

`save` and `read` of the storage service, over a file system. The import model keeps the
files in a table by tenant and key; here each lies under a path that is made of both. A
tenant is known by an id that names a directory. No key leads out of the directory of
its tenant, so that two tenants never meet in a file, and what was saved is read back.
-/

namespace Logistics.Imports

open Logistics.Library

structure TenantName where
  id : Id
  isName : Path.IsName id.toList

/-! ## Paths -/

def invalidKey : ServiceError := .badRequest "Storage key invalida."

section Paths

variable (importStorageDir : List Char)

def tenantDir (tenantId : Id) : List Char := Path.join [importStorageDir, tenantId.toList]

def safePath (tenantId : Id) (key : String) : Except ServiceError (List Char) :=
  if isSafeKey key then
    let base := tenantDir importStorageDir tenantId
    let fullPath := Path.normalize (Path.join [base, key.toList])
    if Path.normalize base <+: fullPath then .ok fullPath else .error invalidKey
  else .error invalidKey

variable {importStorageDir}

theorem splitOn_of_isSafeKey {key : String} (h : isSafeKey key = true) :
    key.toList.splitOn '/' = [key.toList] ∧ Path.parent ∉ key.toList.splitOn '/' := by
  simp only [isSafeKey, Bool.and_eq_true, Bool.not_eq_true', List.contains_eq_mem,
    decide_eq_false_iff_not] at h
  have hsplit := List.splitOn_eq_singleton h.1.1
  refine ⟨hsplit, ?_⟩
  rw [hsplit, List.mem_singleton]
  intro hparent
  exact h.2 ⟨[], [], by rw [List.nil_append, List.append_nil, ← hparent]; rfl⟩

/-- A safe key is never refused for its path. -/
theorem safePath_eq (tenant : TenantName) {key : String} (h : isSafeKey key = true) :
    safePath importStorageDir tenant.id key =
      .ok (Path.normalize (Path.join [tenantDir importStorageDir tenant.id, key.toList])) := by
  rw [safePath, if_pos h]
  exact if_pos (Path.confined_join importStorageDir tenant.isName (splitOn_of_isSafeKey h).2).1

theorem isSafeKey_of_safePath {tenantId : Id} {key : String} {path : List Char}
    (h : safePath importStorageDir tenantId key = .ok path) : isSafeKey key = true := by
  by_contra hkey
  rw [safePath, if_neg hkey] at h
  cases h

/-- The file of a key is in the directory of its tenant, or it is the directory. -/
theorem place_safePath {tenant : TenantName} {key : String} {path : List Char}
    (h : safePath importStorageDir tenant.id key = .ok path) :
    Path.place path = (Path.isAbsolute importStorageDir,
      (Path.resolved importStorageDir).reverse ++ tenant.id.toList ::
        [key.toList].filter fun segment => !Path.isMute segment) := by
  have hkey := isSafeKey_of_safePath h
  obtain ⟨hsplit, hparent⟩ := splitOn_of_isSafeKey hkey
  have hplace := (Path.confined_join importStorageDir tenant.isName hparent).2
  rw [hsplit] at hplace
  rw [safePath_eq tenant hkey] at h
  rw [← Except.ok.inj h]
  exact hplace

/-- Two tenants never meet in a path. -/
theorem tenant_of_safePath {tenant other : TenantName} {key key' : String} {path : List Char}
    (h : safePath importStorageDir tenant.id key = .ok path)
    (h' : safePath importStorageDir other.id key' = .ok path) : tenant.id = other.id := by
  have hplace := (place_safePath h).symm.trans (place_safePath h')
  have htenant := (List.cons.inj (List.append_cancel_left (Prod.mk.inj hplace).2)).1
  exact String.toList_inj.mp htenant

end Paths

/-! ## The service -/

abbrev storageInterface : Interface := fileInterface (List Char) Buffer ServiceError

abbrev Storage : Type := FileSystem (List Char) Buffer

section Service

variable (P : ImportPlatform) (importStorageDir : List Char)

def save (tenantId : Id) (filename : String) (buffer : Buffer) :
    Program storageInterface StoredImportFile := do
  let extension ← Program.ofExcept (safeExtension P filename)
  @Program.perform storageInterface (.mkdir (tenantDir importStorageDir tenantId))
  let uuid ← @Program.perform storageInterface .randomUUID
  let target ← Program.ofExcept (safePath importStorageDir tenantId (uuid ++ extension))
  @Program.perform storageInterface (.writeFile target buffer)
  pure ⟨P.sha256 buffer, uuid ++ extension, buffer.length⟩

def readStored (tenantId : Id) (key : String) : Program storageInterface Buffer := do
  let path ← Program.ofExcept (safePath importStorageDir tenantId key)
  @Program.perform storageInterface (.readFile path)

inductive StorageRequest
  | save (tenant : TenantName) (filename : String) (buffer : Buffer)
  | read (tenant : TenantName) (key : String)

def StorageRequest.tenantId : StorageRequest → Id
  | .save tenant _ _ | .read tenant _ => tenant.id

inductive StorageReply
  | saved (file : StoredImportFile)
  | content (buffer : Buffer)

def handleStorage : StorageRequest → Program storageInterface StorageReply
  | .save tenant filename buffer =>
      .saved <$> save P importStorageDir tenant.id filename buffer
  | .read tenant key => .content <$> readStored importStorageDir tenant.id key

def storageSystem :
    System storageInterface StorageRequest StorageReply (FileInput Buffer) Storage :=
  ⟨executeFiles .fault, handleStorage P importStorageDir⟩

def answerOf (s : Storage) (tenant : TenantName) (key : String) (input : FileInput Buffer) :
    Except ServiceError Buffer :=
  ((readStored importStorageDir tenant.id key).run (executeFiles .fault) (fun _ => input) s).1

end Service

/-! ## What was saved -/

section Saved

variable {P : ImportPlatform} {importStorageDir : List Char}

/-- An answered request has written the file of the key that it names. -/
def Stores (importStorageDir : List Char) :
    StorageRequest → List (Event storageInterface) → Except ServiceError StorageReply → Prop
  | .save tenant _ buffer, h, .ok (.saved file) => file.size = buffer.length ∧
      ∃ path, safePath importStorageDir tenant.id file.key = .ok path ∧
        (⟨.writeFile path buffer, .ok ()⟩ : Event storageInterface) ∈ h
  | _, _, _ => True

theorem save_obeys (tenant : TenantName) (filename : String) (buffer : Buffer) :
    (save P importStorageDir tenant.id filename buffer).Obeys (fun _ _ => True)
      (fun h outcome => Stores importStorageDir (.save tenant filename buffer) h
        (outcome.map .saved)) [] := by
  have herror : ∀ (h : List (Event storageInterface)) (e : ServiceError),
      Stores importStorageDir (.save tenant filename buffer) h
        ((.error e : Except ServiceError StoredImportFile).map .saved) := fun _ _ => trivial
  unfold save
  generalize safeExtension P filename = extension?
  refine Program.Obeys.ofExcept_bind (fun extension _ => ?_) fun e _ => herror _ e
  refine Program.Obeys.perform_bind trivial (fun _ => ?_) fun e => herror _ e
  refine Program.Obeys.perform_bind trivial (fun uuid => ?_) fun e => herror _ e
  refine Program.Obeys.ofExcept_bind (fun target htarget => ?_) fun e _ => herror _ e
  refine Program.Obeys.perform_bind trivial (fun _ => ?_) fun e => herror _ e
  exact ⟨rfl, target, htarget, List.mem_append_right _ (List.mem_singleton.mpr rfl)⟩

theorem handleStorage_obeys (r : StorageRequest) :
    (handleStorage P importStorageDir r).Obeys (fun _ _ => True)
      (Stores importStorageDir r) [] := by
  cases r with
  | save tenant filename buffer =>
      change (StorageReply.saved <$> save P importStorageDir tenant.id filename buffer).Obeys _ _ _
      with_reducible refine Program.Obeys.map (save_obeys tenant filename buffer) ?_ ?_
      · exact fun _ _ h => h
      · exact fun _ _ h => h
  | read tenant key =>
      exact (Program.issues_true _).obeys_each (fun _ _ _ => trivial) []
        |>.mono (fun _ _ h => h) fun _ _ _ => trivial

theorem answerOf_eq {s : Storage} {tenant : TenantName} {key : String} {path : List Char}
    (h : safePath importStorageDir tenant.id key = .ok path) (input : FileInput Buffer) :
    answerOf importStorageDir s tenant key input =
      match s.contentAt path with
      | none => .error .fault
      | some buffer => if input.fault then .error .fault else .ok buffer := by
  rw [answerOf, readStored, h]
  change (Program.run _ (@Program.perform storageInterface (.readFile path)) _ s).1 = _
  rw [Program.perform_eq, Program.run, executeFiles]
  cases s.contentAt path with
  | none => rfl
  | some buffer => cases hfault : input.fault <;> rfl

abbrev StorageThread : Type := Thread storageInterface StorageRequest StorageReply

/-- The request was to save this content, and was answered with this file. -/
def Saved (tenant : TenantName) (buffer : Buffer) (file : StoredImportFile) (t : StorageThread) :
    Prop :=
  (∃ filename, t.request = .save tenant filename buffer) ∧ t.program = .pure (.saved file)

theorem stores_of_saved {s : Storage} {acts : List (Action StorageRequest (FileInput Buffer))}
    {t : StorageThread}
    (ht : t ∈ ((storageSystem P importStorageDir).runActions (Config.initial s) acts).threads)
    {tenant : TenantName} {buffer : Buffer} {file : StoredImportFile}
    (h : Saved tenant buffer file t) :
    file.size = buffer.length ∧ ∃ path,
      safePath importStorageDir tenant.id file.key = .ok path ∧
        (⟨.writeFile path buffer, .ok ()⟩ : Event storageInterface) ∈ t.history := by
  have hobeys := (storageSystem P importStorageDir).obeying_run handleStorage_obeys acts _
    (Config.obeying_initial _ _ s) t ht
  obtain ⟨⟨filename, hrequest⟩, hprogram⟩ := h
  rw [hrequest, hprogram] at hobeys
  exact hobeys

end Saved

/-- In every run, what was saved is read back for good under the key that was answered,
and no two answers to a tenant name one key. -/
theorem saved_files_are_read_back (P : ImportPlatform) (importStorageDir : List Char)
    (s : Storage) (acts : List (Action StorageRequest (FileInput Buffer))) :
    (∀ t ∈ ((storageSystem P importStorageDir).runActions (Config.initial s) acts).threads,
      ∀ tenant buffer file, Saved tenant buffer file t → file.size = buffer.length ∧
        ∀ input, answerOf importStorageDir
            ((storageSystem P importStorageDir).runActions (Config.initial s) acts).store tenant
            file.key input = if input.fault then .error .fault else .ok buffer) ∧
      ∀ i j : ℕ, ∀ t ∈ ((storageSystem P importStorageDir).runActions
          (Config.initial s) acts).threads[i]?,
        ∀ u ∈ ((storageSystem P importStorageDir).runActions
            (Config.initial s) acts).threads[j]?,
          ∀ tenant buffer buffer' file file', Saved tenant buffer file t →
            Saved tenant buffer' file' u → file.key = file'.key → i = j := by
  constructor
  · intro t ht tenant buffer file hsaved
    obtain ⟨hsize, path, hpath, hwritten⟩ := stores_of_saved ht hsaved
    refine ⟨hsize, fun input => ?_⟩
    have hfile := (storageSystem P importStorageDir).written_run rfl acts s t ht _ hwritten
    rw [answerOf_eq hpath, contentAt_of_mem hfile]
  · intro i j t ht u hu tenant buffer buffer' file file' hsaved hsaved' hkey
    obtain ⟨-, path, hpath, hwritten⟩ := stores_of_saved (List.mem_of_getElem? ht) hsaved
    obtain ⟨-, path', hpath', hwritten'⟩ := stores_of_saved (List.mem_of_getElem? hu) hsaved'
    rw [hkey, hpath'] at hpath
    obtain rfl := Except.ok.inj hpath
    have honce := (storageSystem P importStorageDir).written_once rfl path' acts s
    exact Config.eq_of_eventCount_le_one honce ht hu ⟨_, hwritten, decide_eq_true rfl⟩
      ⟨_, hwritten', decide_eq_true rfl⟩

/-! ## Tenants -/

/-- What is written is written in the directory of another tenant. -/
def WritesElsewhere (importStorageDir : List Char) (tenant : TenantName) :
    FileCommand (List Char) Buffer → Prop
  | .writeFile path _ => ∃ other : TenantName, other.id ≠ tenant.id ∧
      ∃ key, safePath importStorageDir other.id key = .ok path
  | _ => True

theorem handleStorage_issues {P : ImportPlatform} {importStorageDir : List Char}
    {tenant : TenantName} {r : StorageRequest} (h : r.tenantId ≠ tenant.id) :
    (handleStorage P importStorageDir r).Issues (WritesElsewhere importStorageDir tenant) := by
  cases r with
  | save other filename buffer =>
      change (StorageReply.saved <$> save P importStorageDir other.id filename buffer).Issues _
      rw [Program.issues_map_iff, save]
      cases safeExtension P filename with
      | error e => trivial
      | ok extension =>
          refine (Program.Issues.perform trivial).bind fun _ => ?_
          refine (Program.Issues.perform trivial).bind fun uuid => ?_
          cases htarget : safePath importStorageDir other.id (uuid ++ extension) with
          | error e => trivial
          | ok target =>
              refine (Program.Issues.perform ?_).bind fun _ => trivial
              exact ⟨other, h, uuid ++ extension, htarget⟩
  | read other key =>
      change (StorageReply.content <$> readStored importStorageDir other.id key).Issues _
      rw [Program.issues_map_iff, readStored]
      cases safePath importStorageDir other.id key with
      | error e => trivial
      | ok path => exact Program.Issues.perform trivial

/-- Whatever the other tenants save, a tenant reads under every key what it read
before. -/
theorem tenants_share_no_file (P : ImportPlatform) (importStorageDir : List Char)
    (tenant : TenantName) (s : Storage) (acts : List (Action StorageRequest (FileInput Buffer)))
    (h : ∀ r, .start r ∈ acts → r.tenantId ≠ tenant.id) (key : String)
    (input : FileInput Buffer) :
    answerOf importStorageDir
        ((storageSystem P importStorageDir).runActions (Config.initial s) acts).store tenant key
        input =
      answerOf importStorageDir s tenant key input := by
  cases hpath : safePath importStorageDir tenant.id key with
  | error e =>
      rw [answerOf, answerOf, readStored, hpath]
      rfl
  | ok path =>
      rw [answerOf_eq hpath, answerOf_eq hpath]
      have hstore := (storageSystem P importStorageDir).store_run
        (J := fun s' => s'.contentAt path = s.contentAt path)
        (P := fun _ c _ => WritesElsewhere importStorageDir tenant c) (fun s' c i hs' hc => ?_)
        acts _ rfl
        ((storageSystem P importStorageDir).along_issuing acts s fun r hr =>
          handleStorage_issues (h r hr))
      · rw [hstore]
      · refine (contentAt_executeFiles (fun content hcontent => ?_) i s').trans hs'
        subst hcontent
        obtain ⟨other, hother, key', hkey'⟩ := hc
        exact hother (tenant_of_safePath hkey' hpath)

/-- A tenant saves a file under the name that the drawn identifier gives it. -/
def savedBy (tenant : TenantName) (content : Buffer) :
    List (Action StorageRequest (FileInput Buffer)) :=
  .start (.save tenant "x.csv" content) :: List.replicate 3 (.step 0 ⟨"u", false, none⟩)

def firstTenant : TenantName := ⟨"a", by constructor <;> decide⟩

def secondTenant : TenantName := ⟨"b", by constructor <;> decide⟩

/-- The second tenant has a file, and the first saves one of the same name. -/
def oneFile : Storage :=
  ((storageSystem plainPlatform "/data".toList).runActions (Config.initial .empty)
    (savedBy secondTenant [7])).store

theorem tenants_share_no_file_saved :
    answerOf "/data".toList oneFile secondTenant "u.csv" ⟨"", false, none⟩ = .ok [7] ∧
      answerOf "/data".toList
          ((storageSystem plainPlatform "/data".toList).runActions (Config.initial oneFile)
            (savedBy firstTenant [1])).store secondTenant "u.csv" ⟨"", false, none⟩ =
        answerOf "/data".toList oneFile secondTenant "u.csv" ⟨"", false, none⟩ := by
  refine ⟨by decide +kernel, ?_⟩
  apply tenants_share_no_file
  intro r hr
  obtain rfl : r = .save firstTenant "x.csv" [1] := by
    simpa [savedBy] using hr
  decide

end Logistics.Imports
