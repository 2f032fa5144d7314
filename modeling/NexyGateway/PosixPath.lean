import Mathlib.Data.List.DropRight

/-!
# POSIX path names

The text operations of Python's `posixpath`, and the place in the directory tree that a path
leads to when its components are walked one after another. Symbolic links are not followed.
-/
namespace PosixPath

abbrev Text := List Char

def isAbsolute (p : Text) : Bool := p.head? = some '/'

def join (a b : Text) : Text :=
  if isAbsolute b then b
  else if a = [] ∨ a.getLast? = some '/' then a ++ b
  else a ++ '/' :: b

def joinPath (a b : String) : String := String.ofList (join a.toList b.toList)

@[simp] theorem joinPath_toList (a b : String) :
    (joinPath a b).toList = join a.toList b.toList := String.toList_ofList

/-- The path up to its last slash. -/
def folder (p : Text) : Text := p.rdropWhile (· ≠ '/')

def basename (p : Text) : Text := p.rtakeWhile (· ≠ '/')

/-- The slashes at the end go, unless there is nothing else. -/
def dirname (p : Text) : Text :=
  if (folder p).all (· = '/') then folder p
  else (folder p).rdropWhile (· = '/')

/-- One component of `normpath`, with those that are kept so far. -/
def normStep (absolute : Bool) (kept : List Text) (c : Text) : List Text :=
  if c = [] ∨ c = ['.'] then kept
  else if c ≠ ['.', '.'] ∨ (!absolute && kept.isEmpty) ∨ kept.getLast? = some ['.', '.'] then
    kept ++ [c]
  else kept.dropLast

/-- Two slashes in front are kept, three and more are one. -/
def initialSlashes : Text → Nat
  | '/' :: '/' :: '/' :: _ => 1
  | '/' :: '/' :: _ => 2
  | '/' :: _ => 1
  | _ => 0

def normpath (p : Text) : Text :=
  let path := List.replicate (initialSlashes p) '/' ++
    ['/'].intercalate ((p.splitOn '/').foldl (normStep (isAbsolute p)) [])
  if path = [] then ['.'] else path

/-- Python's `abspath` in the working directory `cwd`. -/
def abspath (cwd p : Text) : Text := normpath (join cwd p)

/-! ### Walking -/

/-- Where the components lead from a directory, which is the list of its ancestors and itself. -/
def walk (place : List Text) : List Text → List Text
  | [] => place
  | c :: rest =>
    if c = [] ∨ c = ['.'] then walk place rest
    else if c = ['.', '.'] then walk place.dropLast rest
    else walk (place ++ [c]) rest

/-- The place of an absolute path. -/
def place (p : Text) : List Text := walk [] (p.splitOn '/')

/-- The place of a path in the working directory `cwd`. -/
def location (cwd p : Text) : List Text := place (join cwd p)

/-- A component that names an entry of its directory. -/
def Plain (c : Text) : Prop := c ≠ [] ∧ c ≠ ['.'] ∧ c ≠ ['.', '.'] ∧ '/' ∉ c

@[simp] theorem walk_nil (q : List Text) : walk q [] = q := rfl

@[simp] theorem walk_empty (q : List Text) (cs : List Text) : walk q ([] :: cs) = walk q cs := by
  simp [walk]

theorem walk_append (q cs ds : List Text) : walk q (cs ++ ds) = walk (walk q cs) ds := by
  induction cs generalizing q with
  | nil => rfl
  | cons c cs ih =>
    simp only [List.cons_append, walk]
    split
    · exact ih q
    · split
      · exact ih q.dropLast
      · exact ih (q ++ [c])

theorem walk_plain {c : Text} (h : Plain c) (q cs : List Text) :
    walk q (c :: cs) = walk (q ++ [c]) cs := by
  simp [walk, h.1, h.2.1, h.2.2.1]

theorem walk_all_plain {cs : List Text} (h : ∀ c ∈ cs, Plain c) (q : List Text) :
    walk q cs = q ++ cs := by
  induction cs generalizing q with
  | nil => simp
  | cons c cs ih =>
    obtain ⟨hc, hcs⟩ := List.forall_mem_cons.mp h
    rw [walk_plain hc, ih hcs, List.append_assoc]
    rfl

theorem walk_append_slash (q : List Text) (a b : Text) :
    walk q ((a ++ '/' :: b).splitOn '/') = walk (walk q (a.splitOn '/')) (b.splitOn '/') := by
  rw [List.splitOn_append_cons_self, walk_append]

theorem place_trailing (a : Text) : place (a ++ ['/']) = place a := walk_append_slash [] a []

theorem walk_join (q : List Text) {a b : Text} (hb : isAbsolute b = false) :
    walk q ((join a b).splitOn '/') = walk (walk q (a.splitOn '/')) (b.splitOn '/') := by
  rw [join, if_neg (by simp [hb])]
  split
  · next hempty =>
    rcases hempty with rfl | hlast
    · rfl
    · obtain ⟨front, rfl⟩ := List.getLast?_eq_some_iff.mp hlast
      rw [walk_append_slash q front [], List.append_assoc]
      exact walk_append_slash q front b
  · exact walk_append_slash q a b

theorem join_of_isAbsolute {a b : Text} (h : isAbsolute b = true) : join a b = b := if_pos h

theorem isAbsolute_join {a b : Text} (hb : isAbsolute b = false) :
    isAbsolute (join a b) = isAbsolute a := by
  rw [join, if_neg (by simp [hb])]
  cases a with
  | nil => simpa [isAbsolute] using hb
  | cons c a => split <;> rfl

/-- A joined path is walked from where its first part leads. -/
theorem location_join (cwd a b : Text) : location cwd (join a b) =
    if isAbsolute b then place b else walk (location cwd a) (b.splitOn '/') := by
  unfold location
  cases hb : isAbsolute b with
  | true => rw [join_of_isAbsolute hb, join_of_isAbsolute hb, if_pos rfl]
  | false =>
    rw [if_neg Bool.false_ne_true]
    cases ha : isAbsolute a with
    | true =>
      rw [join_of_isAbsolute ha, join_of_isAbsolute ((isAbsolute_join hb).trans ha)]
      exact walk_join [] hb
    | false =>
      rw [place, walk_join [] ((isAbsolute_join hb).trans ha), walk_join _ hb, place,
        walk_join [] ha]

/-! ### The last component -/

theorem folder_append_basename (p : Text) : folder p ++ basename p = p :=
  List.rdropWhile_append_rtakeWhile

theorem slash_notMem_basename (p : Text) : '/' ∉ basename p := by
  intro h
  simpa using List.mem_rtakeWhile_imp h

/-- A path that is empty or ends with a slash. -/
def IsFolder (a : Text) : Prop := a = [] ∨ ∃ front, a = front ++ ['/']

/-- The parts of a path are known where one sees its last slash. -/
theorem folder_append {a c : Text} (ha : IsFolder a) (hc : '/' ∉ c) :
    folder (a ++ c) = a ∧ basename (a ++ c) = c := by
  unfold folder basename
  induction c using List.reverseRecOn with
  | nil =>
    rw [List.append_nil]
    rcases ha with rfl | ⟨front, rfl⟩
    · exact ⟨rfl, rfl⟩
    · rw [List.rdropWhile_concat_neg _ _ _ (by simp), List.rtakeWhile_concat_neg _ _ _ (by simp)]
      exact ⟨rfl, rfl⟩
  | append_singleton c x ih =>
    simp only [List.mem_append, List.mem_singleton, not_or] at hc
    have hx : x ≠ '/' := Ne.symm hc.2
    obtain ⟨hfolder, hbase⟩ := ih hc.1
    rw [← List.append_assoc, List.rdropWhile_concat_pos _ _ _ (by simpa using hx),
      List.rtakeWhile_concat_pos _ _ _ (by simpa using hx), hfolder, hbase]
    exact ⟨rfl, rfl⟩

theorem isFolder_folder (p : Text) : IsFolder (folder p) := by
  by_cases h : folder p = []
  · exact .inl h
  · have hlast := List.rdropWhile_last_not (fun c => decide (c ≠ '/')) p h
    rw [decide_eq_true_eq, not_not] at hlast
    exact .inr ⟨(folder p).dropLast, by
      rw [← hlast]
      exact (List.dropLast_append_getLast h).symm⟩

theorem location_eq (cwd p : Text) :
    location cwd p = if isAbsolute p then place p else walk (place cwd) (p.splitOn '/') := by
  unfold location
  cases hp : isAbsolute p with
  | true => rw [join_of_isAbsolute hp, if_pos rfl]
  | false => exact walk_join [] hp

theorem location_trailing (cwd : Text) {a : Text} (ha : a ≠ []) :
    location cwd (a ++ ['/']) = location cwd a := by
  have habs : isAbsolute (a ++ ['/']) = isAbsolute a := by
    cases a with
    | nil => exact absurd rfl ha
    | cons c a => rfl
  rw [location_eq, location_eq, habs, place_trailing, walk_append_slash]
  rfl

/-- The slashes that `dirname` takes away lead nowhere. -/
theorem location_dirname (cwd p : Text) : location cwd (dirname p) = location cwd (folder p) := by
  unfold dirname
  split
  · rfl
  · next hslashes =>
    generalize folder p = q at hslashes
    induction q using List.reverseRecOn with
    | nil => rfl
    | append_singleton a c ih =>
      by_cases hc : c = '/'
      · subst hc
        have hfront : ¬ a.all (· = '/') = true := by simpa using hslashes
        have hne : a ≠ [] := by
          rintro rfl
          exact hfront rfl
        rw [List.rdropWhile_concat_pos _ _ _ (by simp), ih hfront, location_trailing cwd hne]
      · rw [List.rdropWhile_concat_neg _ _ _ (by simpa using hc)]

theorem isAbsolute_folder (p : Text) : isAbsolute (folder p) = isAbsolute p := by
  conv_rhs => rw [← folder_append_basename p]
  cases hfolder : folder p with
  | cons c rest => rfl
  | nil =>
    cases hbase : basename p with
    | nil => rfl
    | cons c rest =>
      have hc : c ≠ '/' := by
        rintro rfl
        exact slash_notMem_basename p (hbase ▸ List.mem_cons_self)
      simp [isAbsolute, hc]

/-- The last component of a joined path is the one of its second part. -/
theorem folder_join (a p : Text) :
    folder (join a p) = join a (folder p) ∧ basename (join a p) = basename p := by
  have hparts : ∀ front, IsFolder front →
      folder (front ++ p) = front ++ folder p ∧ basename (front ++ p) = basename p := by
    intro front hfront
    have hfolder : IsFolder (front ++ folder p) := by
      rcases isFolder_folder p with h | ⟨q, h⟩
      · rw [h, List.append_nil]
        exact hfront
      · exact .inr ⟨front ++ q, by rw [h, List.append_assoc]⟩
    have hjoined := folder_append hfolder (slash_notMem_basename p)
    rw [List.append_assoc, folder_append_basename] at hjoined
    exact hjoined
  have habs := isAbsolute_folder p
  unfold join
  rw [habs]
  split
  · exact ⟨rfl, rfl⟩
  · split
    · next hempty =>
      refine hparts a ?_
      rcases hempty with h | h
      · exact .inl h
      · exact .inr (List.getLast?_eq_some_iff.mp h)
    · have hslash := hparts (a ++ ['/']) (.inr ⟨a, rfl⟩)
      rw [List.append_assoc, List.append_assoc] at hslash
      exact hslash

/-! ### Normal paths -/

/-- The separator is in none of the parts. -/
theorem notMem_of_mem_splitOn {α : Type} [BEq α] [LawfulBEq α] {a : α} {l part : List α}
    (h : part ∈ l.splitOn a) : a ∉ part := by
  induction l generalizing part with
  | nil =>
    rw [List.splitOn_nil, List.mem_singleton] at h
    simp [h]
  | cons x l ih =>
    rw [List.splitOn_cons_eq_if_modifyHead] at h
    split at h
    · rcases List.mem_cons.mp h with rfl | h
      · simp
      · exact ih h
    · next hx =>
      cases hsplit : l.splitOn a with
      | nil => exact absurd hsplit (List.splitOn_ne_nil _ _)
      | cons d ds =>
        rw [hsplit] at h ih
        rcases List.mem_cons.mp h with rfl | h
        · have hd := ih List.mem_cons_self
          simp only [beq_iff_eq] at hx
          simp [hd, Ne.symm hx]
        · exact ih (List.mem_cons_of_mem _ h)

/-- On an absolute path `normpath` walks. -/
theorem foldl_normStep {kept cs : List Text} (hkept : ∀ c ∈ kept, Plain c)
    (hcs : ∀ c ∈ cs, '/' ∉ c) :
    cs.foldl (normStep true) kept = walk kept cs ∧ ∀ c ∈ walk kept cs, Plain c := by
  induction cs generalizing kept with
  | nil => exact ⟨rfl, hkept⟩
  | cons c cs ih =>
    obtain ⟨hc, hrest⟩ := List.forall_mem_cons.mp hcs
    rw [List.foldl_cons]
    by_cases hskip : c = [] ∨ c = ['.']
    · rw [normStep, if_pos hskip, walk, if_pos hskip]
      exact ih hkept hrest
    · by_cases hup : c = ['.', '.']
      · have hlast : kept.getLast? ≠ some ['.', '.'] := by
          intro hlast
          exact (hkept _ (List.mem_of_getLast? hlast)).2.2.1 rfl
        rw [normStep, if_neg hskip, if_neg (by simp [hup, hlast]), walk, if_neg hskip, if_pos hup]
        exact ih (fun d hd => hkept d (List.dropLast_subset kept hd)) hrest
      · rw [normStep, if_neg hskip, if_pos (.inl hup), walk, if_neg hskip, if_neg hup]
        refine ih ?_ hrest
        intro d hd
        rcases List.mem_append.mp hd with hd | hd
        · exact hkept d hd
        · rw [List.mem_singleton.mp hd]
          exact ⟨fun h => hskip (.inl h), fun h => hskip (.inr h), hup, hc⟩

theorem place_replicate (n : Nat) (p : Text) : place (List.replicate n '/' ++ p) = place p := by
  induction n with
  | zero => rfl
  | succ n ih =>
    rw [List.replicate_succ, List.cons_append, ← ih]
    exact walk_append_slash [] [] _

theorem place_intercalate {cs : List Text} (h : ∀ c ∈ cs, Plain c) :
    place (['/'].intercalate cs) = cs := by
  cases cs with
  | nil => rfl
  | cons c cs =>
    rw [place, List.splitOn_intercalate _ (fun d hd => (h d hd).2.2.2) (by simp),
      walk_all_plain h, List.nil_append]

theorem initialSlashes_pos {p : Text} (h : isAbsolute p = true) : 0 < initialSlashes p := by
  cases p with
  | nil => cases h
  | cons c p =>
    have hc : c = '/' := by simpa [isAbsolute] using h
    subst hc
    unfold initialSlashes
    split <;> simp_all

theorem isAbsolute_join_left {a : Text} (h : isAbsolute a = true) (b : Text) :
    isAbsolute (join a b) = true := by
  cases hb : isAbsolute b with
  | true => rw [join_of_isAbsolute hb, hb]
  | false => rw [isAbsolute_join hb, h]

/-- `abspath` leads to the same place, from anywhere. -/
theorem abspath_spec {cwd : Text} (hcwd : isAbsolute cwd = true) (p : Text) :
    isAbsolute (abspath cwd p) = true ∧ place (abspath cwd p) = location cwd p := by
  have habs := isAbsolute_join_left hcwd p
  obtain ⟨n, hn⟩ := Nat.exists_eq_add_one_of_ne_zero (initialSlashes_pos habs).ne'
  obtain ⟨hfold, hplain⟩ := @foldl_normStep [] _ (by simp)
    (fun _ hc => notMem_of_mem_splitOn (l := join cwd p) hc)
  have hne : List.replicate (initialSlashes (join cwd p)) '/' ++
      ['/'].intercalate (place (join cwd p)) ≠ [] := by
    rw [hn]
    simp
  have heq : abspath cwd p = List.replicate (initialSlashes (join cwd p)) '/' ++
      ['/'].intercalate (place (join cwd p)) := by
    rw [abspath, normpath, habs, hfold]
    exact if_neg hne
  rw [heq]
  constructor
  · rw [hn]
    rfl
  · rw [place_replicate]
    exact place_intercalate hplain

/-! ### Canonical paths -/

theorem plain_of_mem_place {p c : Text} (h : c ∈ place p) : Plain c :=
  (@foldl_normStep [] _ (by simp) (fun _ => notMem_of_mem_splitOn)).2 c h

/-- An absolute path as it is spelled from its place. -/
def Canonical (p : Text) : Prop := p = '/' :: ['/'].intercalate (place p)

instance decidableCanonical (p : Text) : Decidable (Canonical p) :=
  inferInstanceAs (Decidable (p = '/' :: ['/'].intercalate (place p)))

theorem Canonical.splitOn {p : Text} (h : Canonical p) :
    p.splitOn '/' = [] :: (['/'].intercalate (place p)).splitOn '/' := by
  conv_lhs => rw [h]
  exact List.splitOn_append_cons_self [] _

/-- A canonical path that goes on behind a canonical path leads to a place below it. -/
theorem Canonical.inside {p t : Text} (hp : Canonical p) (ht : Canonical t)
    (hstart : t ++ ['/'] <+: p) : ∃ extra, extra ≠ [] ∧ place p = place t ++ extra := by
  obtain ⟨rest, hrest⟩ := hstart
  have hsplit : p.splitOn '/' = t.splitOn '/' ++ rest.splitOn '/' := by
    rw [← hrest, List.append_assoc]
    exact List.splitOn_append_cons_self _ _
  rw [hp.splitOn, ht.splitOn, List.cons_append, List.cons.injEq] at hsplit
  have hplace : ∀ {q : Text}, place q ≠ [] →
      (['/'].intercalate (place q)).splitOn '/' = place q := fun hq =>
    List.splitOn_intercalate _ (fun c hc => (plain_of_mem_place hc).2.2.2) hq
  have hroot : (['/'].intercalate ([] : List Text)).splitOn '/' = [[]] := rfl
  by_cases hpn : place p = []
  · rw [hpn, hroot] at hsplit
    have hlength := congrArg List.length hsplit.2
    have h1 := List.length_pos_of_ne_nil
      (List.splitOn_ne_nil '/' (['/'].intercalate (place t)))
    have h2 := List.length_pos_of_ne_nil (List.splitOn_ne_nil '/' rest)
    rw [List.length_append, List.length_singleton] at hlength
    omega
  · rw [hplace hpn] at hsplit
    by_cases htn : place t = []
    · rw [htn, hroot] at hsplit
      have hempty : ([] : Text) ∈ place p := by
        rw [hsplit.2]
        exact List.mem_cons_self
      exact absurd rfl (plain_of_mem_place hempty).1
    · rw [hplace htn] at hsplit
      exact ⟨_, List.splitOn_ne_nil _ _, hsplit.2⟩

end PosixPath
