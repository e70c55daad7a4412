import Logistics.Library.Interleaving
import Logistics.Library.Table

/-!
# Files that are written once

A file system in which a file is only written where there is none, and none is ever
removed. A write that is broken off may leave anything behind, also a file. What was
written stays (`System.written_run`), a path is written once (`System.written_once`),
and a path that is not written reads as before (`find?_executeFiles`).
-/

namespace Logistics.Library

structure File (Path Content : Type) where
  path : Path
  content : Content

section Files

variable {Path Content ε : Type}

variable (Path Content) in
inductive FileCommand
  | randomUUID
  | mkdir (path : Path)
  /-- `writeFile(path, content, { flag: 'wx' })` -/
  | writeFile (path : Path) (content : Content)
  | readFile (path : Path)

@[reducible] def FileCommand.Result : FileCommand Path Content → Type
  | .randomUUID => String
  | .mkdir _ => Unit
  | .writeFile .. => Unit
  | .readFile _ => Content

variable (Path Content ε) in
@[reducible] def fileInterface : Interface :=
  ⟨FileCommand Path Content, FileCommand.Result, ε⟩

variable (Path Content) in
abbrev FileSystem : Type := Table (File Path Content) Path fun file => [file.path]

structure FileInput (Content : Type) where
  uuid : String
  fault : Bool
  /-- What a write leaves behind that is broken off. -/
  left : Option Content

variable [DecidableEq Path]

/-- The file at a path. -/
def FileSystem.contentAt (s : FileSystem Path Content) (path : Path) : Option Content :=
  (s.rows.find? fun file => file.path = path).map File.content

def executeFiles (failed : ε) : (c : FileCommand Path Content) → FileInput Content →
    FileSystem Path Content → Response (fileInterface Path Content ε) c × FileSystem Path Content
  | .randomUUID, input, s => (.ok input.uuid, s)
  | .mkdir _, input, s => (if input.fault then .error failed else .ok (), s)
  | .writeFile path content, input, s =>
      match if input.fault then input.left else some content with
      | none => (.error failed, s)
      | some written =>
          match s.tryInsert ⟨path, written⟩ with
          | none => (.error failed, s)
          | some s' => (if input.fault then .error failed else .ok (), s')
  | .readFile path, input, s =>
      match s.contentAt path with
      | none => (.error failed, s)
      | some content => (if input.fault then .error failed else .ok content, s)

variable {failed : ε}

variable (failed) in
theorem rows_executeFiles (c : FileCommand Path Content) (input : FileInput Content)
    (s : FileSystem Path Content) :
    (executeFiles failed c input s).2.rows = s.rows ∨
      ∃ path content written, c = .writeFile path content ∧
        (∀ file ∈ s.rows, file.path ≠ path) ∧
        (executeFiles failed c input s).2.rows = s.rows ++ [⟨path, written⟩] := by
  cases c with
  | writeFile path content =>
      rw [executeFiles]
      split
      · exact .inl rfl
      · next written _ =>
        split
        · exact .inl rfl
        · next s' hinsert =>
          refine .inr ⟨path, content, written, rfl, fun file hfile hpath => ?_,
            Table.tryInsert_rows hinsert⟩
          exact Table.fresh_of_tryInsert hinsert path (List.mem_singleton.mpr rfl) file hfile
            (List.mem_singleton.mpr hpath.symm)
  | readFile path =>
      rw [executeFiles]
      split <;> exact .inl rfl
  | randomUUID => exact .inl rfl
  | mkdir path => exact .inl rfl

theorem written_of_answer {path : Path} {content : Content} {input : FileInput Content}
    {s : FileSystem Path Content} {u : Unit}
    (h : (executeFiles failed (.writeFile path content) input s).1 = .ok u) :
    (∀ file ∈ s.rows, file.path ≠ path) ∧
      (executeFiles failed (.writeFile path content) input s).2.rows =
        s.rows ++ [⟨path, content⟩] := by
  cases hfault : input.fault with
  | true =>
      rw [executeFiles, hfault] at h
      split at h
      · cases h
      · split at h <;> cases h
  | false =>
      have hexecute : executeFiles failed (.writeFile path content) input s =
          match s.tryInsert ⟨path, content⟩ with
          | none => (.error failed, s)
          | some s' => (.ok (), s') := by
        rw [executeFiles, hfault]
        rfl
      rw [hexecute] at h ⊢
      cases hinsert : s.tryInsert ⟨path, content⟩ with
      | none =>
          rw [hinsert] at h
          cases h
      | some s' =>
          refine ⟨fun file hfile hpath => ?_, Table.tryInsert_rows hinsert⟩
          exact Table.fresh_of_tryInsert hinsert path (List.mem_singleton.mpr rfl) file hfile
            (List.mem_singleton.mpr hpath.symm)

theorem contentAt_executeFiles {path : Path} {c : FileCommand Path Content}
    (hc : ∀ content, c ≠ .writeFile path content) (input : FileInput Content)
    (s : FileSystem Path Content) :
    (executeFiles failed c input s).2.contentAt path = s.contentAt path := by
  rcases rows_executeFiles failed c input s with
    hrows | ⟨path', content, written, rfl, -, hrows⟩
  · rw [FileSystem.contentAt, hrows, FileSystem.contentAt]
  · have hne : path' ≠ path := by
      rintro rfl
      exact hc content rfl
    rw [FileSystem.contentAt, hrows, List.find?_append, FileSystem.contentAt]
    simp [hne]

theorem contentAt_of_mem {s : FileSystem Path Content} {file : File Path Content}
    (h : file ∈ s.rows) : s.contentAt file.path = some file.content := by
  have hfind := s.find?_eq_some (p := fun other => decide (other.path = file.path)) h
    (List.mem_singleton.mpr rfl) fun other => by
      rw [decide_eq_true_eq, List.mem_singleton, eq_comm]
  rw [FileSystem.contentAt, hfind]
  rfl

section Runs

variable {R α : Type} {sys : System (fileInterface Path Content ε) R α (FileInput Content)
  (FileSystem Path Content)}

/-- What an answered write says of the files. -/
def Written (s : FileSystem Path Content) : Event (fileInterface Path Content ε) → Prop
  | ⟨.writeFile path content, .ok _⟩ => ⟨path, content⟩ ∈ s.rows
  | _ => True

theorem System.written_run (hsys : sys.backend = executeFiles failed)
    (acts : List (Action R (FileInput Content))) (s : FileSystem Path Content) :
    (sys.runActions (Config.initial s) acts).Knowing Written := by
  refine sys.knowing_run (P := fun _ _ _ => True) (fun cmd i s _ => ?_) (fun cmd i s e _ he => ?_)
    acts _ (Config.knowing_initial _ s) (sys.alongActions_callTrue acts _)
  · rw [hsys]
    cases cmd with
    | writeFile path content =>
        cases hanswer : (executeFiles failed (.writeFile path content) i s).1 with
        | error e => trivial
        | ok u =>
            change _ ∈ (executeFiles failed (.writeFile path content) i s).2.rows
            rw [(written_of_answer hanswer).2]
            exact List.mem_append_right _ (List.mem_singleton.mpr rfl)
    | _ => trivial
  · rw [hsys]
    obtain ⟨called, answered⟩ := e
    cases called with
    | writeFile path content =>
        cases answered with
        | error e => trivial
        | ok u =>
            change _ ∈ (executeFiles failed cmd i s).2.rows
            rcases rows_executeFiles failed cmd i s with hrows | ⟨_, _, _, -, -, hrows⟩
            · rw [hrows]
              exact he
            · rw [hrows]
              exact List.mem_append_left _ he
    | _ => trivial

def writes (path : Path) : Event (fileInterface Path Content ε) → Bool
  | ⟨.writeFile path' _, .ok _⟩ => path' = path
  | _ => false

/-- A path is written once. -/
theorem System.written_once (hsys : sys.backend = executeFiles failed) (path : Path)
    (acts : List (Action R (FileInput Content))) (s : FileSystem Path Content) :
    (sys.runActions (Config.initial s) acts).eventCount (writes path) ≤ 1 := by
  refine sys.eventCount_run_le_one (fun s => ∃ file ∈ s.rows, file.path = path)
    (P := fun _ _ => True) (fun c a cmd i _ _ _ hdead => ?_) (fun c a cmd i _ _ hwrites => ?_)
    acts s (sys.alongActions_true acts _)
  · rw [hsys]
    obtain ⟨file, hfile, hpath⟩ := hdead
    rcases rows_executeFiles failed cmd i c.store with hrows | ⟨_, _, _, -, -, hrows⟩
    · exact ⟨file, hrows ▸ hfile, hpath⟩
    · exact ⟨file, hrows ▸ List.mem_append_left _ hfile, hpath⟩
  · rw [hsys] at hwrites ⊢
    cases cmd with
    | writeFile path' content =>
        cases hanswer : (executeFiles failed (.writeFile path' content) i c.store).1 with
        | error e =>
            rw [hanswer] at hwrites
            cases hwrites
        | ok u =>
            rw [hanswer] at hwrites
            obtain rfl := of_decide_eq_true hwrites
            obtain ⟨hfresh, hrows⟩ := written_of_answer hanswer
            refine ⟨fun ⟨file, hfile, hpath⟩ => hfresh file hfile hpath, ⟨path', content⟩, ?_, rfl⟩
            rw [hrows]
            exact List.mem_append_right _ (List.mem_singleton.mpr rfl)
    | _ => cases hwrites

end Runs

end Files

end Logistics.Library
