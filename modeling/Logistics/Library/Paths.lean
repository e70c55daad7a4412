import Mathlib.Data.List.Basic
import Mathlib.Tactic.Common

/-!
# Paths

`normalize`, `join` and `extname` of paths whose segments are parted by slashes. A path
is read segment by segment: the empty segment and `.` say nothing, and `..` takes the
last segment back, if there is one to take back. The place of a path is what is left of
it; normalizing keeps the place (`place_normalize`) and so does writing it down
(`place_render`).
-/

namespace Logistics.Library.Path

def parent : List Char := ['.', '.']

/-- A segment that says nothing. -/
def isMute (segment : List Char) : Bool := segment = [] ∨ segment = ['.']

/-- One more segment behind those that were resolved, the last one first. -/
def resolve (absolute : Bool) (resolved : List (List Char)) (segment : List Char) :
    List (List Char) :=
  if isMute segment then resolved
  else if segment = parent then
    match resolved with
    | [] => if absolute then [] else [parent]
    | last :: rest => if last = parent then parent :: resolved else rest
  else segment :: resolved

def isAbsolute (path : List Char) : Bool := path.head? = some '/'

def resolved (path : List Char) : List (List Char) :=
  (path.splitOn '/').foldl (resolve (isAbsolute path)) []

def render (absolute : Bool) (segments : List (List Char)) : List Char :=
  (if absolute then ['/'] else []) ++ ['/'].intercalate segments

/-- `normalize(path)` -/
def normalize (path : List Char) : List Char :=
  let body := ['/'].intercalate (resolved path).reverse
  if path = [] then ['.']
  else if body = [] then
    if isAbsolute path then ['/'] else if path.getLast? = some '/' then ['.', '/'] else ['.']
  else render (isAbsolute path) (resolved path).reverse ++
    if path.getLast? = some '/' then ['/'] else []

/-- `join(...parts)` -/
def join (parts : List (List Char)) : List Char :=
  let present := parts.filter (· ≠ [])
  if present = [] then ['.'] else normalize (['/'].intercalate present)

/-- `extname(path)`: from the last dot of the last segment on, unless it starts there. -/
def extname (path : List Char) : List Char :=
  let base := ((path.splitOn '/').filter (· ≠ [])).getLastD []
  let extension := (base.splitOn '.').getLastD []
  if base.length ≤ extension.length + 1 ∨ base = parent then [] else '.' :: extension

structure IsName (segment : List Char) : Prop where
  not_mute : isMute segment = false
  not_parent : segment ≠ parent
  no_slash : '/' ∉ segment

/-- Names behind steps to the directory above, the last one first. -/
def IsResolved (absolute : Bool) : List (List Char) → Prop
  | [] => True
  | segment :: rest => (IsName segment ∧ IsResolved absolute rest) ∨
      (segment = parent ∧ absolute = false ∧ ∀ other ∈ rest, other = parent)

def place (path : List Char) : Bool × List (List Char) :=
  (isAbsolute path, (resolved path).reverse)

section Resolve

variable {absolute : Bool} {stack : List (List Char)}

theorem isResolved_of_parents (habsolute : absolute = false)
    (h : ∀ segment ∈ stack, segment = parent) : IsResolved absolute stack := by
  cases stack with
  | nil => trivial
  | cons segment rest =>
      exact .inr ⟨h segment List.mem_cons_self, habsolute,
        fun other hother => h other (List.mem_cons_of_mem _ hother)⟩

theorem IsResolved.tail {segment : List Char} (h : IsResolved absolute (segment :: stack)) :
    IsResolved absolute stack := by
  rcases h with ⟨-, hrest⟩ | ⟨-, habsolute, hrest⟩
  · exact hrest
  · exact isResolved_of_parents habsolute hrest

theorem IsResolved.resolve (h : IsResolved absolute stack) {segment : List Char}
    (hslash : '/' ∉ segment) : IsResolved absolute (resolve absolute stack segment) := by
  unfold Path.resolve
  split
  · exact h
  · next hmute =>
    split
    · split
      · cases habsolute : absolute with
        | true => trivial
        | false => exact .inr ⟨rfl, rfl, fun _ hother => (nomatch hother)⟩
      · next last rest =>
        split
        · next hlast =>
          rcases h with ⟨hname, -⟩ | ⟨-, habsolute, hrest⟩
          · exact absurd hlast hname.not_parent
          · refine .inr ⟨rfl, habsolute, fun other hother => ?_⟩
            rcases List.mem_cons.mp hother with rfl | hother
            · exact hlast
            · exact hrest other hother
        · exact h.tail
    · next hparent => exact .inl ⟨⟨Bool.eq_false_iff.mpr hmute, hparent, hslash⟩, h⟩

theorem IsResolved.foldl {segments : List (List Char)} (h : IsResolved absolute stack)
    (hslash : ∀ segment ∈ segments, '/' ∉ segment) :
    IsResolved absolute (segments.foldl (Path.resolve absolute) stack) := by
  induction segments generalizing stack with
  | nil => exact h
  | cons segment rest ih =>
      exact ih (h.resolve (hslash segment List.mem_cons_self))
        fun other hother => hslash other (List.mem_cons_of_mem _ hother)

theorem resolve_of_mute {segment : List Char} (h : isMute segment = true) :
    Path.resolve absolute stack segment = stack := by
  unfold Path.resolve
  rw [if_pos h]

theorem resolve_of_name {segment : List Char} (hmute : isMute segment = false)
    (hparent : segment ≠ parent) :
    Path.resolve absolute stack segment = segment :: stack := by
  unfold Path.resolve
  rw [if_neg (Bool.eq_false_iff.mp hmute), if_neg hparent]

/-- What is resolved resolves to itself. -/
theorem IsResolved.foldl_reverse (h : IsResolved absolute stack) :
    stack.reverse.foldl (Path.resolve absolute) [] = stack := by
  induction stack with
  | nil => rfl
  | cons segment rest ih =>
      rw [List.reverse_cons, List.foldl_append, ih h.tail, List.foldl_cons, List.foldl_nil]
      rcases h with ⟨hname, -⟩ | ⟨rfl, rfl, hrest⟩
      · exact resolve_of_name hname.not_mute hname.not_parent
      · cases rest with
        | nil => rfl
        | cons last rest =>
            obtain rfl := hrest last List.mem_cons_self
            rfl

theorem foldl_resolve {segments : List (List Char)} (h : parent ∉ segments) :
    segments.foldl (Path.resolve absolute) stack =
      (segments.filter fun segment => !isMute segment).reverse ++ stack := by
  induction segments generalizing stack with
  | nil => rfl
  | cons segment rest ih =>
      rw [List.foldl_cons, ih fun hrest => h (List.mem_cons_of_mem _ hrest)]
      have hparent : segment ≠ parent := fun heq => h (heq ▸ List.mem_cons_self)
      cases hmute : isMute segment with
      | true => rw [resolve_of_mute hmute, List.filter_cons_of_neg (by simp [hmute])]
      | false =>
          rw [resolve_of_name hmute hparent, List.filter_cons_of_pos (by simp [hmute]),
            List.reverse_cons, List.append_assoc, List.singleton_append]

end Resolve

section Places

variable {path : List Char}

theorem not_mem_of_mem_splitOn {segment : List Char} (h : segment ∈ path.splitOn '/') :
    '/' ∉ segment := by
  induction path generalizing segment with
  | nil =>
      rw [List.splitOn_nil, List.mem_singleton] at h
      rw [h]
      exact List.not_mem_nil
  | cons c rest ih =>
      rw [List.splitOn_cons_eq_if_modifyHead] at h
      split at h
      · rcases List.mem_cons.mp h with rfl | h
        · exact List.not_mem_nil
        · exact ih h
      · next hc =>
        obtain ⟨first, others, hsplit⟩ :=
          List.exists_cons_of_ne_nil (List.splitOn_ne_nil '/' rest)
        rw [hsplit, List.modifyHead_cons] at h
        rcases List.mem_cons.mp h with rfl | h
        · intro hmem
          rcases List.mem_cons.mp hmem with hslash | hmem
          · exact hc (by simp [← hslash])
          · exact ih (hsplit ▸ List.mem_cons_self) hmem
        · exact ih (hsplit ▸ List.mem_cons_of_mem _ h)

theorem isResolved_resolved (path : List Char) :
    IsResolved (isAbsolute path) (resolved path) := by
  have hnil : IsResolved (isAbsolute path) [] := trivial
  exact hnil.foldl fun _ hsegment => not_mem_of_mem_splitOn hsegment

theorem IsResolved.no_slash {absolute : Bool} {stack : List (List Char)}
    (h : IsResolved absolute stack) :
    ∀ segment ∈ stack, '/' ∉ segment ∧ isMute segment = false := by
  induction stack with
  | nil => exact fun _ hnone => nomatch hnone
  | cons first rest ih =>
      intro segment hsegment
      rcases List.mem_cons.mp hsegment with rfl | hsegment
      · rcases h with ⟨hname, -⟩ | ⟨rfl, -, -⟩
        · exact ⟨hname.no_slash, hname.not_mute⟩
        · decide
      · exact ih h.tail segment hsegment

theorem resolved_append (hpath : path ≠ []) (rest : List Char) :
    isAbsolute (path ++ '/' :: rest) = isAbsolute path ∧
      resolved (path ++ '/' :: rest) =
        (rest.splitOn '/').foldl (resolve (isAbsolute path)) (resolved path) := by
  have habsolute : isAbsolute (path ++ '/' :: rest) = isAbsolute path := by
    rw [isAbsolute, isAbsolute, List.head?_append_of_ne_nil _ hpath]
  refine ⟨habsolute, ?_⟩
  rw [resolved, habsolute, List.splitOn_append_cons_self, List.foldl_append, resolved]

theorem place_render {absolute : Bool} {stack : List (List Char)}
    (h : IsResolved absolute stack) (hnone : absolute = false → stack ≠ []) :
    isAbsolute (render absolute stack.reverse) = absolute ∧
      resolved (render absolute stack.reverse) = stack := by
  have hsegments := h.no_slash
  cases hstack : stack.reverse with
  | nil =>
      obtain rfl := List.reverse_eq_nil_iff.mp hstack
      cases habsolute : absolute with
      | false => exact absurd rfl (hnone habsolute)
      | true => exact ⟨rfl, rfl⟩
  | cons first others =>
      have hfirst : first ∈ stack := List.mem_reverse.mp (hstack ▸ List.mem_cons_self)
      have hsplit : (['/'].intercalate stack.reverse).splitOn '/' = stack.reverse := by
        apply List.splitOn_intercalate
        · intro segment hsegment
          exact (hsegments segment (List.mem_reverse.mp hsegment)).1
        · rw [hstack]
          exact List.cons_ne_nil _ _
      have hhead : (['/'].intercalate stack.reverse).head? ≠ some '/' := by
        have hne : first ≠ [] := by
          rintro rfl
          exact absurd (hsegments [] hfirst).2 (by decide)
        obtain ⟨c, cs, rfl⟩ := List.exists_cons_of_ne_nil hne
        have hc : c ≠ '/' := fun heq => (hsegments _ hfirst).1 (heq ▸ List.mem_cons_self)
        rw [hstack]
        cases others <;> simp [List.intercalate, hc]
      rw [← hstack]
      cases habsolute : absolute with
      | true =>
          refine ⟨rfl, ?_⟩
          rw [render, if_pos rfl, resolved]
          change (([] ++ '/' :: ['/'].intercalate stack.reverse).splitOn '/').foldl
            (resolve true) [] = stack
          rw [List.splitOn_append_cons_self, hsplit, List.splitOn_nil, List.singleton_append,
            List.foldl_cons]
          exact (habsolute ▸ h).foldl_reverse
      | false =>
          have hrelative : isAbsolute (render false stack.reverse) = false := by
            rw [isAbsolute, render, if_neg Bool.false_ne_true, List.nil_append]
            exact decide_eq_false hhead
          refine ⟨hrelative, ?_⟩
          rw [resolved, hrelative, render, if_neg Bool.false_ne_true, List.nil_append, hsplit]
          exact (habsolute ▸ h).foldl_reverse

theorem intercalate_append {xs ys : List (List Char)} (hxs : xs ≠ []) (hys : ys ≠ []) :
    ['/'].intercalate (xs ++ ys) = ['/'].intercalate xs ++ '/' :: ['/'].intercalate ys := by
  induction xs with
  | nil => exact absurd rfl hxs
  | cons first rest ih =>
      obtain ⟨y, ys, rfl⟩ := List.exists_cons_of_ne_nil hys
      cases rest with
      | nil => simp [List.intercalate]
      | cons second rest =>
          have hrest := ih (List.cons_ne_nil _ _)
          simp only [List.intercalate, List.cons_append, List.intersperse_cons_cons,
            List.flatten_cons] at hrest ⊢
          rw [hrest]
          simp

theorem render_isPrefix {absolute : Bool} {xs : List (List Char)} (hxs : xs ≠ [])
    (ys : List (List Char)) : render absolute xs <+: render absolute (xs ++ ys) := by
  unfold render
  cases ys with
  | nil => simp only [List.append_nil, List.prefix_rfl]
  | cons y ys =>
      rw [intercalate_append hxs (List.cons_ne_nil y ys), ← List.append_assoc]
      exact List.prefix_append _ _

theorem intercalate_ne_nil {absolute : Bool} {stack : List (List Char)}
    (h : IsResolved absolute stack) (hstack : stack ≠ []) :
    ['/'].intercalate stack.reverse ≠ [] := by
  obtain ⟨first, others, hreverse⟩ :=
    List.exists_cons_of_ne_nil (fun heq => hstack (List.reverse_eq_nil_iff.mp heq))
  have hne : first ≠ [] := by
    rintro rfl
    exact absurd (h.no_slash [] (List.mem_reverse.mp (hreverse ▸ List.mem_cons_self))).2
      (by decide)
  rw [hreverse]
  cases others <;> simp [List.intercalate, hne]

/-- A path that leads somewhere is written down as its place, with a slash behind if it
had one. -/
theorem normalize_eq (h : resolved path ≠ []) :
    normalize path = render (isAbsolute path) (resolved path).reverse ++
      if path.getLast? = some '/' then ['/'] else [] := by
  have hpath : path ≠ [] := by
    rintro rfl
    exact h (by decide)
  unfold normalize
  rw [if_neg hpath, if_neg (intercalate_ne_nil (isResolved_resolved path) h)]

theorem render_ne_nil {absolute : Bool} {stack : List (List Char)}
    (h : IsResolved absolute stack) (hstack : stack ≠ []) :
    render absolute stack.reverse ≠ [] := by
  unfold render
  exact List.append_ne_nil_of_right_ne_nil _ (intercalate_ne_nil h hstack)

/-- Normalizing a path does not change where it leads. -/
theorem place_normalize (path : List Char) : place (normalize path) = place path := by
  by_cases h : resolved path = []
  · have hbody : ['/'].intercalate (resolved path).reverse = [] := by rw [h]; rfl
    have hplace : place path = (isAbsolute path, []) := by rw [place, h]; rfl
    rw [hplace]
    by_cases hpath : path = []
    · subst hpath
      decide
    · unfold normalize
      rw [if_neg hpath, if_pos hbody]
      cases habsolute : isAbsolute path with
      | true =>
          rw [if_pos rfl]
          decide
      | false =>
          rw [if_neg Bool.false_ne_true]
          split <;> decide
  · have hresolved := isResolved_resolved path
    obtain ⟨habsolute, hrender⟩ := place_render hresolved fun _ => h
    rw [normalize_eq h, place]
    split
    · obtain ⟨habsolute', hrender'⟩ := resolved_append (render_ne_nil hresolved h) []
      rw [habsolute', hrender', habsolute, hrender, List.splitOn_nil, List.foldl_cons,
        List.foldl_nil, resolve_of_mute (by decide)]
      rfl
    · rw [List.append_nil, habsolute, hrender]
      rfl

/-! A name behind a directory. -/

variable {name : List Char}

theorem IsName.ne_nil (h : IsName name) : name ≠ [] := by
  rintro rfl
  exact absurd h.not_mute (by decide)

theorem IsName.isResolved {absolute : Bool} {stack : List (List Char)} (h : IsName name)
    (hstack : IsResolved absolute stack) : IsResolved absolute (name :: stack) :=
  .inl ⟨h, hstack⟩

theorem IsName.resolve {absolute : Bool} {stack : List (List Char)} (h : IsName name) :
    (name.splitOn '/').foldl (Path.resolve absolute) stack = name :: stack := by
  rw [List.splitOn_eq_singleton h.no_slash, List.foldl_cons, List.foldl_nil,
    resolve_of_name h.not_mute h.not_parent]

theorem IsName.getLast? (h : IsName name) (before : List Char) :
    (before ++ name).getLast? ≠ some '/' := by
  rw [List.getLast?_append_of_ne_nil _ h.ne_nil]
  exact fun heq => h.no_slash (List.mem_of_getLast? heq)

theorem join_name (directory : List Char) (h : IsName name) :
    join [directory, name] =
      render (isAbsolute directory) ((resolved directory).reverse ++ [name]) := by
  have hstack := h.isResolved (isResolved_resolved directory)
  by_cases hdirectory : directory = []
  · subst hdirectory
    have hresolved : resolved name = [name] := by
      rw [resolved, h.resolve]
    have habsolute : isAbsolute name = false := by
      obtain ⟨c, cs, rfl⟩ := List.exists_cons_of_ne_nil h.ne_nil
      exact decide_eq_false fun heq => h.no_slash (Option.some.inj heq ▸ List.mem_cons_self)
    have hjoin : join [[], name] = normalize name := by
      simp [join, h.ne_nil, List.intercalate]
    have hlast := h.getLast? []
    rw [List.nil_append] at hlast
    rw [hjoin, normalize_eq (hresolved ▸ List.cons_ne_nil _ _), habsolute, hresolved,
      if_neg hlast, List.append_nil]
    rfl
  · obtain ⟨habsolute, hresolved⟩ := resolved_append hdirectory name
    rw [h.resolve] at hresolved
    have hjoin : join [directory, name] = normalize (directory ++ '/' :: name) := by
      simp [join, h.ne_nil, hdirectory, List.intercalate]
    have hlast := h.getLast? (directory ++ ['/'])
    rw [List.append_assoc, List.singleton_append] at hlast
    rw [hjoin, normalize_eq (hresolved ▸ List.cons_ne_nil _ _), habsolute, hresolved,
      if_neg hlast, List.append_nil, List.reverse_cons]

/-- What a path without steps upwards leads to is behind the directory that it is
joined to. -/
theorem place_join {absolute : Bool} {stack : List (List Char)}
    (h : IsResolved absolute stack) (hstack : stack ≠ []) {rest : List Char}
    (hrest : parent ∉ rest.splitOn '/') :
    place (join [render absolute stack.reverse, rest]) =
      (absolute, stack.reverse ++ (rest.splitOn '/').filter fun segment => !isMute segment) := by
  have hdirectory := render_ne_nil h hstack
  obtain ⟨habsolute, hrender⟩ := place_render h fun _ => hstack
  by_cases hempty : rest = []
  · subst hempty
    have hjoin : join [render absolute stack.reverse, []] =
        normalize (render absolute stack.reverse) := by
      simp [join, hdirectory, List.intercalate]
    rw [hjoin, place_normalize, place, habsolute, hrender]
    simp [List.splitOn_nil, isMute]
  · have hjoin : join [render absolute stack.reverse, rest] =
        normalize (render absolute stack.reverse ++ '/' :: rest) := by
      simp [join, hdirectory, hempty, List.intercalate]
    obtain ⟨habsolute', hresolved⟩ := resolved_append hdirectory rest
    rw [hjoin, place_normalize, place, habsolute', hresolved, habsolute, hrender,
      foldl_resolve hrest, List.reverse_append, List.reverse_reverse]

/-- What is joined to a name in a directory without steps upwards stays behind it. -/
theorem confined_join (directory : List Char) (h : IsName name) {rest : List Char}
    (hrest : parent ∉ rest.splitOn '/') :
    normalize (join [directory, name]) <+:
        normalize (join [join [directory, name], rest]) ∧
      place (normalize (join [join [directory, name], rest])) =
        (isAbsolute directory, (resolved directory).reverse ++
          name :: (rest.splitOn '/').filter fun segment => !isMute segment) := by
  have hstack := h.isResolved (isResolved_resolved directory)
  have hne : name :: resolved directory ≠ [] := List.cons_ne_nil _ _
  have hbase : join [directory, name] =
      render (isAbsolute directory) (name :: resolved directory).reverse := by
    rw [join_name directory h, List.reverse_cons]
  have hplace := place_join hstack hne hrest
  rw [← hbase] at hplace
  obtain ⟨habsolute, hresolved⟩ := place_render hstack fun _ => hne
  rw [← hbase] at habsolute hresolved
  constructor
  · obtain ⟨habsolute', hresolved'⟩ := Prod.mk.inj hplace
    have hlonger : resolved (join [join [directory, name], rest]) ≠ [] := by
      intro hnil
      rw [hnil] at hresolved'
      simp at hresolved'
    have hlast : (join [directory, name]).getLast? ≠ some '/' := by
      have hone : ['/'].intercalate [name] = name := by simp [List.intercalate]
      rw [hbase, render, List.reverse_cons]
      cases hdirectory : (resolved directory).reverse with
      | nil =>
          rw [List.nil_append, hone]
          exact h.getLast? _
      | cons first others =>
          rw [intercalate_append (List.cons_ne_nil _ _) (List.cons_ne_nil _ _), hone,
            ← List.append_assoc, List.append_cons]
          exact h.getLast? _
    rw [normalize_eq (hresolved ▸ hne), normalize_eq hlonger, habsolute, habsolute', hresolved,
      hresolved', if_neg hlast, List.append_nil]
    exact (render_isPrefix (fun hnil => hne (List.reverse_eq_nil_iff.mp hnil)) _).trans
      (List.prefix_append _ _)
  · rw [place_normalize, hplace, List.reverse_cons, List.append_assoc, List.singleton_append]

end Places

end Logistics.Library.Path
