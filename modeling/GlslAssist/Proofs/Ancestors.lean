import GlslAssist.Path
import Mathlib.Data.List.Chain
import Mathlib.Data.List.Infix
import Mathlib.Data.List.TakeWhile

/-!
# The way up

A path is read as its head, if it has one, and the names in it; repeated slashes and single points
are no names (`components`). Its parent is cut off its end, and is without the last of these
components (`isParent_of_parent?`). So whoever goes up comes to an end: at the root if the path was
absolute, and else at the empty path (`ascent_ancestors`).
-/

namespace GlslAssist.Path

/-- The pieces of a path that say something. -/
def names (p : Path) : List Path :=
  (p.splitOn slash).filter fun piece => piece ≠ [] ∧ piece ≠ [dot]

def components (p : Path) : List Path :=
  (if p.head = [] then [] else [p.head]) ++ p.names

@[simp] theorem names_nil : names [] = [] := rfl

@[simp] theorem names_dot : names [dot] = [] := by decide

theorem names_append_slash (p q : Path) : names (p ++ slash :: q) = names p ++ names q := by
  rw [names, List.splitOn_append_cons_self, List.filter_append, names, names]

@[simp] theorem names_slash (q : Path) : names (slash :: q) = names q :=
  names_append_slash [] q

theorem names_piece {piece : Path} (hslash : slash ∉ piece) (hne : piece ≠ [])
    (hdot : piece ≠ [dot]) : names piece = [piece] := by
  rw [names, List.splitOn_eq_singleton hslash]
  simp [hne, hdot]

theorem slash_not_mem_takeWhile (p : Path) : slash ∉ p.takeWhile (· ≠ slash) := by
  intro h
  simpa using List.mem_takeWhile_imp h

/-- From the first slash on a path is empty or begins with that slash. -/
theorem dropWhile_slash (p : Path) :
    p.dropWhile (· ≠ slash) = [] ∨ ∃ rest, p.dropWhile (· ≠ slash) = slash :: rest := by
  rcases h : p.dropWhile (· ≠ slash) with _ | ⟨c, rest⟩
  · exact .inl rfl
  · have hc := List.head?_dropWhile_not (· ≠ slash) p
    rw [h] at hc
    exact .inr ⟨rest, by simpa using hc⟩

/-- The first byte begins a piece that says something. -/
def BeginsName : Path → Prop
  | [] => False
  | c :: rest => c ≠ slash ∧ ¬ (c = dot ∧ (rest = [] ∨ rest.head? = some slash))

/-- The piece that a name begins with is that name. -/
theorem takeWhile_of_beginsName {p : Path} (h : BeginsName p) :
    p.takeWhile (· ≠ slash) ≠ [] ∧ p.takeWhile (· ≠ slash) ≠ [dot] := by
  rcases p with _ | ⟨c, rest⟩
  · exact h.elim
  · obtain ⟨hslash, hdot⟩ := h
    rw [List.takeWhile_cons_of_pos (by simpa using hslash)]
    refine ⟨List.cons_ne_nil _ _, fun heq => hdot ?_⟩
    obtain ⟨rfl, hnil⟩ := List.cons.inj heq
    refine ⟨rfl, ?_⟩
    rcases rest with _ | ⟨d, rest⟩
    · exact .inl rfl
    · exact .inr (by simpa [List.takeWhile_cons] using hnil)

theorem names_ne_nil {p : Path} (h : BeginsName p) : names p ≠ [] := by
  obtain ⟨hne, hdot⟩ := takeWhile_of_beginsName h
  have hpiece := names_piece (slash_not_mem_takeWhile p) hne hdot
  have hp : p.takeWhile (· ≠ slash) ++ p.dropWhile (· ≠ slash) = p :=
    List.takeWhile_append_dropWhile
  rcases dropWhile_slash p with hrest | ⟨rest, hrest⟩
  · rw [hrest, List.append_nil] at hp
    rw [← hp, hpiece]
    exact List.cons_ne_nil _ _
  · rw [← hp, hrest, names_append_slash, hpiece]
    exact List.cons_ne_nil _ _

theorem dropIdle_suffix (s : List UInt8) : dropIdle s <:+ s := by
  fun_induction dropIdle s with
  | case1 => exact List.suffix_rfl
  | case2 _ ih => exact ih.trans (List.suffix_cons _ _)
  | case3 _ _ _ _ ih => exact ih.trans (List.suffix_cons _ _)
  | case4 => exact List.suffix_rfl

theorem beginsName_dropIdle {s : List UInt8} (h : dropIdle s ≠ []) : BeginsName (dropIdle s) := by
  fun_induction dropIdle s with
  | case1 => exact absurd rfl h
  | case2 _ ih => exact ih h
  | case3 _ _ _ _ ih => exact ih h
  | case4 _ _ hslash hdot => exact ⟨hslash, hdot⟩

theorem names_dropIdle (s : List UInt8) : names (dropIdle s).reverse = names s.reverse := by
  fun_induction dropIdle s with
  | case1 => rfl
  | case2 rest ih =>
    rw [ih, List.reverse_cons, names_append_slash, names_nil, List.append_nil]
  | case3 c rest _ hdot ih =>
    obtain ⟨rfl, hrest⟩ := hdot
    rw [ih, List.reverse_cons]
    rcases rest with _ | ⟨d, rest⟩
    · rfl
    · obtain rfl : d = slash := by simpa using hrest
      rw [List.reverse_cons, List.append_assoc, names_append_slash]
      exact (names_append_slash rest.reverse [dot]).symm
  | case4 => rfl

/-- The last piece is the last name, if it is one. -/
theorem names_reverse {s : List UInt8} (h : BeginsName s) :
    names s.reverse = names (s.dropWhile (· ≠ slash)).reverse
      ++ [(s.takeWhile (· ≠ slash)).reverse] := by
  obtain ⟨hne, hdot⟩ := takeWhile_of_beginsName h
  have hpiece : names (s.takeWhile (· ≠ slash)).reverse = [(s.takeWhile (· ≠ slash)).reverse] :=
    names_piece (by simpa only [List.mem_reverse] using slash_not_mem_takeWhile s)
      (by simpa using hne) (fun heq => hdot (by simpa using congrArg List.reverse heq))
  have hs : (s.dropWhile (· ≠ slash)).reverse ++ (s.takeWhile (· ≠ slash)).reverse = s.reverse := by
    rw [← List.reverse_append, List.takeWhile_append_dropWhile]
  rcases dropWhile_slash s with hrest | ⟨rest, hrest⟩
  · rw [hrest, List.reverse_nil, List.nil_append] at hs
    rw [← hs, hpiece, hrest]
    rfl
  · rw [hrest, List.reverse_cons, List.append_assoc] at hs
    rw [← hs, hrest, List.reverse_cons, names_append_slash, names_nil, List.append_nil, ← hpiece]
    exact names_append_slash _ _

theorem head_eq_cases (p : Path) :
    p = [] ∨ (∃ rest, p = slash :: rest ∧ p.head = [slash])
      ∨ (∃ rest, p = dot :: rest ∧ (rest = [] ∨ rest.head? = some slash) ∧ p.head = [dot])
      ∨ BeginsName p ∧ p.head = [] := by
  rcases p with _ | ⟨c, rest⟩
  · exact .inl rfl
  · refine .inr ?_
    simp only [head]
    split_ifs with hslash hdot
    · exact .inl ⟨rest, by rw [hslash], rfl⟩
    · exact .inr (.inl ⟨rest, by rw [hdot.1], hdot.2, rfl⟩)
    · exact .inr (.inr ⟨⟨hslash, hdot⟩, rfl⟩)

/-- A head is no name. -/
theorem names_drop_head (p : Path) : names (p.drop p.head.length) = names p := by
  rcases head_eq_cases p with rfl | ⟨rest, rfl, h⟩ | ⟨rest, rfl, hrest, h⟩ | ⟨-, h⟩
  · rfl
  · rw [h]
    exact (names_slash rest).symm
  · rw [h]
    rcases rest with _ | ⟨c, rest⟩
    · rfl
    · obtain rfl : c = slash := by simpa using hrest
      rw [show dot :: slash :: rest = [dot] ++ slash :: rest from rfl, names_append_slash]
      simp
  · rw [h]
    rfl

theorem names_lastFirst (p : Path) : names (lastFirst p).reverse = names p := by
  rw [lastFirst, names_dropIdle, List.reverse_reverse, names_drop_head]

theorem head_of_beginsName {p : Path} (h : BeginsName p) : p.head = [] := by
  rcases p with _ | ⟨c, rest⟩
  · rfl
  · rw [head, if_neg h.1, if_neg h.2]

theorem head_append_drop (p : Path) : p.head ++ p.drop p.head.length = p := by
  rcases head_eq_cases p with rfl | ⟨rest, rfl, h⟩ | ⟨rest, rfl, -, h⟩ | ⟨-, h⟩
  · rfl
  · rw [h]
    rfl
  · rw [h]
    rfl
  · rw [h]
    rfl

/-! ## Parents -/

/-- A cut after a name leaves the head as it is. -/
theorem head_cut {p : Path} {s : List UInt8} (hcut : s.reverse <+: p.drop p.head.length)
    (hname : s ≠ [] → BeginsName s) : (p.head ++ s.reverse).head = p.head := by
  rcases head_eq_cases p with rfl | ⟨rest, rfl, h⟩ | ⟨rest, rfl, hrest, h⟩ | ⟨hp, h⟩
  · rw [List.prefix_nil.1 hcut]
    rfl
  · rw [h]
    simp [head]
  · rw [h] at hcut ⊢
    rcases hs : s.reverse with _ | ⟨c, before⟩
    · rfl
    · obtain ⟨after, hafter⟩ := hs ▸ hcut
      have hrest' : rest.head? = some c := by
        simp [show rest = c :: (before ++ after) from hafter.symm]
      have hc : c = slash := by
        rcases hrest with rfl | hrest
        · cases hrest'
        · exact Option.some.inj (hrest'.symm.trans hrest)
      simp [head, hc, show dot ≠ slash by decide]
  · rw [h] at hcut ⊢
    rw [List.nil_append]
    rcases hs : s.reverse with _ | ⟨c, before⟩
    · rfl
    · obtain ⟨after, hafter⟩ := hs ▸ hcut
      obtain rfl : c :: (before ++ after) = p := hafter
      refine head_of_beginsName ⟨hp.1, ?_⟩
      rintro ⟨rfl, hbefore⟩
      rcases before with _ | ⟨d, before⟩
      · obtain rfl : s = [dot] := by simpa using congrArg List.reverse hs
        exact (hname (List.cons_ne_nil _ _)).2 ⟨rfl, .inl rfl⟩
      · exact hp.2 ⟨rfl, .inr (hbefore.resolve_left (List.cons_ne_nil _ _))⟩

/-- What the parent of a path is: the path cut off before its last component. -/
structure IsParent (p q : Path) : Prop where
  cut : q <+: p
  components : q.components = p.components.dropLast
  absolute : q.head? = some slash ↔ p.head? = some slash

theorem head_eq_slash_iff (p : Path) : p.head = [slash] ↔ p.head? = some slash := by
  rcases head_eq_cases p with rfl | ⟨rest, rfl, h⟩ | ⟨rest, rfl, -, h⟩ | ⟨hp, h⟩
  · decide
  · simp [h]
  · rw [h]
    simp [show dot ≠ slash by decide]
  · rw [h]
    rcases p with _ | ⟨c, rest⟩
    · exact hp.elim
    · simpa using hp.1

theorem isParent_of_parent? {p q : Path} (h : p.parent? = some q) : IsParent p q := by
  have hnames := names_lastFirst p
  rw [parent?] at h
  split at h
  · next hnil =>
    -- nothing but a point that begins the path is left to cut
    rw [hnil] at hnames
    split at h
    · next hdot =>
      obtain rfl := Option.some.inj h
      refine ⟨List.nil_prefix, ?_, ?_⟩
      · rw [components, components, ← hnames, hdot]
        rfl
      · rw [← head_eq_slash_iff, ← head_eq_slash_iff, hdot]
        decide
    · cases h
  · next hne =>
    obtain rfl := Option.some.inj h
    have hcut : (dropIdle ((lastFirst p).dropWhile (· ≠ slash))).reverse
        <+: p.drop p.head.length := by
      rw [lastFirst, ← List.reverse_suffix, List.reverse_reverse]
      exact (dropIdle_suffix _).trans ((List.dropWhile_suffix _).trans (dropIdle_suffix _))
    have hhead := head_cut hcut beginsName_dropIdle
    have hbegins : BeginsName (lastFirst p) := beginsName_dropIdle hne
    have hrest := names_drop_head
      (p.head ++ (dropIdle ((lastFirst p).dropWhile (· ≠ slash))).reverse)
    rw [hhead, List.drop_left, names_dropIdle] at hrest
    refine ⟨?_, ?_, ?_⟩
    · have hprefix := (List.prefix_append_right_inj p.head).2 hcut
      rwa [head_append_drop] at hprefix
    · rw [components, components, hhead, ← hrest, ← hnames, names_reverse hbegins,
        ← List.append_assoc, List.dropLast_concat]
    · rw [← head_eq_slash_iff, hhead, head_eq_slash_iff]

example : (ofText "./a//../.b/.").components = [ofText ".", ofText "a", ofText "..", ofText ".b"]
    ∧ (ofText "./a//../.b/.").parent? = some (ofText "./a//..") := by decide

/-- Nothing is above the empty path and the root, whose only component is its head. -/
theorem of_parent?_eq_none {p : Path} (h : p.parent? = none) :
    p = [] ∨ p.head? = some slash ∧ p.components = [[slash]] := by
  have hnames := names_lastFirst p
  have hlast : lastFirst p = [] := by
    by_contra hne
    simp [parent?, hne] at h
  rw [hlast] at hnames
  rcases head_eq_cases p with rfl | ⟨rest, rfl, hhead⟩ | ⟨rest, rfl, -, hhead⟩ | ⟨hp, -⟩
  · exact .inl rfl
  · refine .inr ⟨rfl, ?_⟩
    rw [components, ← hnames, hhead]
    rfl
  · rw [parent?, if_pos hlast, if_pos hhead] at h
    cases h
  · exact absurd hnames.symm (names_ne_nil hp)

/-! ## Ancestors -/

theorem ancestors_of_none {p : Path} (h : p.parent? = none) : p.ancestors = [p] := by
  rw [ancestors]
  split
  · rfl
  · next hq => rw [h] at hq; cases hq

theorem ancestors_of_some {p q : Path} (h : p.parent? = some q) :
    p.ancestors = p :: q.ancestors := by
  rw [ancestors]
  split
  · next hq => rw [h] at hq; cases hq
  · next hq => rw [h] at hq; cases hq; rfl

/-- The way up from a path, parent by parent, to where there is none. An absolute path ends at the
root, which may be written with more than one slash, and any other at the empty path. -/
structure Ascent (p : Path) (chain : List Path) : Prop where
  first : chain.head? = some p
  steps : chain.IsChain fun q r => q.parent? = some r ∧ IsParent q r
  ends : ∃ top, chain.getLast? = some top ∧ top.parent? = none
    ∧ if p.head? = some slash then top.components = [[slash]] else top = []

theorem ascent_ancestors (p : Path) : Ascent p p.ancestors := by
  rcases h : p.parent? with _ | q
  · rw [ancestors_of_none h]
    refine ⟨rfl, .singleton _, p, rfl, h, ?_⟩
    rcases of_parent?_eq_none h with rfl | ⟨habs, hroot⟩
    · rfl
    · rwa [if_pos habs]
  · have hparent := isParent_of_parent? h
    obtain ⟨hfirst, hsteps, hends⟩ := ascent_ancestors q
    obtain ⟨chain, hchain⟩ := List.head?_eq_some_iff.1 hfirst
    rw [ancestors_of_some h]
    rw [hchain] at hsteps hends ⊢
    simp only [hparent.absolute] at hends
    exact ⟨rfl, hsteps.cons_cons ⟨h, hparent⟩, hends⟩
termination_by p.length
decreasing_by exact parent?_length_lt h

theorem components_ne_nil {p : Path} (h : p ≠ []) : p.components ≠ [] := by
  rw [components]
  rcases head_eq_cases p with rfl | ⟨rest, rfl, hhead⟩ | ⟨rest, rfl, -, hhead⟩ | ⟨hp, hhead⟩
  · exact absurd rfl h
  · simp [hhead]
  · simp [hhead]
  · simpa [hhead] using names_ne_nil hp

theorem components_append_slash {p : Path} (h : p ≠ []) :
    components (p ++ [slash]) = p.components := by
  have hhead : head (p ++ [slash]) = p.head := by
    rcases p with _ | ⟨c, rest⟩
    · exact absurd rfl h
    · rcases rest with _ | ⟨d, rest⟩ <;> simp [head]
  rw [components, components, hhead, names_append_slash, names_nil, List.append_nil]

/-- A file of that name in a directory has a longer path than the one in its parent. -/
theorem length_join_lt {p q name : Path} (h : p.parent? = some q)
    (hname : name.head? ≠ some slash) : (q.join name).length < (p.join name).length := by
  have hlt := parent?_length_lt h
  obtain ⟨⟨rest, hrest⟩, hcomponents, -⟩ := isParent_of_parent? h
  have hp : p ≠ [] := List.ne_nil_of_length_pos (Nat.zero_lt_of_lt hlt)
  -- a slash at the end of `p` alone is no component, so more than it was cut off
  have hlonger : p.getLast? = some slash → q ≠ [] → p.length ≠ q.length + 1 := by
    intro hlast hq hlength
    rcases rest with _ | ⟨c, _ | ⟨d, rest⟩⟩
    · simp [← hrest] at hlength
    · obtain rfl : c = slash := by simpa [← hrest] using hlast
      have hdrop := congrArg List.length (hcomponents.symm.trans
        ((components_append_slash hq).symm.trans (congrArg components hrest)))
      have hpos := List.length_pos_iff.2 (components_ne_nil hp)
      rw [List.length_dropLast] at hdrop
      omega
    · simp [← hrest] at hlength
  simp only [join, hname, if_false, hp, false_or]
  split_ifs with hq hlast hlast
  · simp only [List.length_append]
    omega
  · simp only [List.length_append, List.length_cons]
    omega
  · have := hlonger hlast fun hnil => hq (.inl hnil)
    simp only [List.length_append, List.length_cons]
    omega
  · simp only [List.length_append, List.length_cons]
    omega

/-- On the way up the paths of the files of one name get shorter and shorter, so no two are the
same. -/
theorem pairwise_join (p name : Path) (hname : name.head? ≠ some slash) :
    p.ancestors.Pairwise fun q r => (r.join name).length < (q.join name).length := by
  have hsteps : (p.ancestors.map fun q => (q.join name).length).IsChain (· > ·) :=
    (List.isChain_map _).2 ((ascent_ancestors p).steps.imp fun _ _ h => length_join_lt h.1 hname)
  exact List.pairwise_map.1 hsteps.pairwise

end GlslAssist.Path
