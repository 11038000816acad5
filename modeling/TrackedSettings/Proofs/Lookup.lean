import TrackedSettings.Cache.Listing

/-! # What is found in a table

Every way to make a table from another one is described by what is found under a key afterwards.
A scan finds the entries under its stem and no others: in the order of the keys they stand together,
and none of them stands before the stem.
-/

namespace TrackedSettings

/-! ## Order of keys -/

/-- Between a list of characters and one that it begins there is only what it begins, too. -/
theorem isPrefix_of_between {stem low high : List Char} (begins : stem <+: high)
    (notBelow : ¬ low < stem) (below : low < high) : stem <+: low := by
  induction stem generalizing low high with
  | nil => exact List.nil_prefix
  | cons c stem ih =>
      obtain ⟨rest, rfl⟩ := begins
      cases low with
      | nil => exact absurd (List.nil_lt_cons c stem) notBelow
      | cons d low =>
          rw [List.cons_append, List.cons_lt_cons_iff] at below
          rw [List.cons_lt_cons_iff] at notBelow
          rcases below with less | ⟨same, below⟩
          · exact absurd (Or.inl less) notBelow
          · subst same
            have inner : stem <+: low :=
              ih (List.prefix_append stem rest) (fun less => notBelow (Or.inr ⟨rfl, less⟩)) below
            exact (List.prefix_cons_inj d).mpr inner

theorem beginsWith_of_between {stem low high : String} (begins : beginsWith stem high = true)
    (notBelow : ¬ low < stem) (below : low < high) : beginsWith stem low = true := by
  rw [beginsWith, List.isPrefixOf_iff_prefix] at begins ⊢
  exact isPrefix_of_between begins notBelow below

/-- No key comes before a stem that it begins with. -/
theorem not_lt_of_beginsWith {stem key : String} (begins : beginsWith stem key = true) :
    ¬ key < stem := by
  rw [beginsWith, List.isPrefixOf_iff_prefix] at begins
  obtain ⟨rest, same⟩ := begins
  intro less
  have less : key.toList < stem.toList := less
  rw [← same] at less
  exact List.not_lt.mpr (List.prefix_append stem.toList rest).le less

theorem beginsWith_append (stem name : String) : beginsWith stem (stem ++ name) = true :=
  beginsWith_iff.mpr ⟨name, rfl⟩

/-! ## Scanning an ordered list -/

section Scan

variable {β : Type} {stem : String} {entries : List (String × β)}

/-- Of keys in order and not below the stem, those that begin with it come first. -/
theorem takeWhile_beginsWith (sorted : entries.Pairwise fun a b => a.1 < b.1)
    (notBelow : ∀ e ∈ entries, ¬ e.1 < stem) :
    entries.takeWhile (fun e => beginsWith stem e.1) =
      entries.filter fun e => beginsWith stem e.1 := by
  induction entries with
  | nil => rfl
  | cons first rest ih =>
      by_cases begins : beginsWith stem first.1 = true
      · have later := ih sorted.of_cons fun e member => notBelow e (List.mem_cons_of_mem _ member)
        simp [begins, later]
      · -- Were a later key under the stem, the first would be as well.
        have outside : ∀ e ∈ rest, ¬ beginsWith stem e.1 = true := fun e member inside =>
          begins (beginsWith_of_between inside (notBelow first List.mem_cons_self)
            (List.rel_of_pairwise_cons sorted member))
        simpa [begins] using outside

/-- A scan that starts at the stem and stops at the first key outside it finds all keys under it. -/
theorem scanned_eq_filter (sorted : entries.Pairwise fun a b => a.1 < b.1) :
    (entries.dropWhile fun e => e.1 < stem).takeWhile (fun e => beginsWith stem e.1) =
      entries.filter fun e => beginsWith stem e.1 := by
  induction entries with
  | nil => rfl
  | cons first rest ih =>
      by_cases below : first.1 < stem
      · have outside : ¬ beginsWith stem first.1 = true := fun begins =>
          not_lt_of_beginsWith begins below
        rw [List.dropWhile_cons_of_pos (by simpa using below), ih sorted.of_cons,
          List.filter_cons_of_neg (by exact outside)]
      · rw [List.dropWhile_cons_of_neg (by simpa using below)]
        apply takeWhile_beginsWith sorted
        intro e member less
        rcases List.mem_cons.mp member with rfl | later
        · exact below less
        · have above : first.1 < e.1 := List.rel_of_pairwise_cons sorted later
          exact below (String.lt_trans above less)

end Scan

/-! ## Tables -/

namespace Entries

theorem toList_sorted (t : Entries) : t.toList.Pairwise fun a b => a.1 < b.1 := by
  apply t.ordered_keys_toList.imp
  intro a b less
  exact compareOfLessAndEq_eq_lt.mp less

/-- A table that is made from entries of a function has, under each key, what the function has. -/
theorem getElem?_ofList {entries : List (String × Value)} (look : String → Option Value)
    (agrees : ∀ e ∈ entries, look e.1 = some e.2) (key : String) :
    (Std.ExtTreeMap.ofList entries : Entries)[key]? =
      if key ∈ entries.map Prod.fst then look key else none := by
  rw [Std.ExtTreeMap.ofList_eq_insertMany_empty, Std.ExtTreeMap.getElem?_insertMany_list,
    List.findSomeRev?_eq_findSome?_reverse, Std.ExtTreeMap.getElem?_empty, Option.or_none]
  split
  · next member =>
    obtain ⟨e, inside, rfl⟩ := List.mem_map.mp member
    cases found : entries.reverse.findSome? fun x => if compare x.1 e.1 = .eq then some x.2 else none with
    | none =>
        rw [List.findSome?_eq_none_iff] at found
        have := found e (List.mem_reverse.mpr inside)
        simp at this
    | some value =>
        obtain ⟨x, inside, hit⟩ := List.exists_of_findSome?_eq_some found
        split at hit
        · next same =>
          cases hit
          rw [← Std.LawfulEqOrd.eq_of_compare same]
          exact (agrees x (List.mem_reverse.mp inside)).symm
        · cases hit
  · next outside =>
    rw [List.findSome?_eq_none_iff]
    intro e inside
    apply if_neg
    intro same
    apply outside
    rw [← Std.LawfulEqOrd.eq_of_compare same]
    exact List.mem_map_of_mem (List.mem_reverse.mp inside)

/-- A scan finds what stands under the stem, and nothing else. -/
theorem getElem?_scan (t : Entries) (stem key : String) :
    (t.scan stem)[key]? = if beginsWith stem key then t[key]? else none := by
  have inScan : ∀ e, e ∈ (t.toList.filter fun e => beginsWith stem e.1) ↔
      e ∈ t.toList ∧ beginsWith stem e.1 = true := fun _ => List.mem_filter
  rw [scan, scanned_eq_filter t.toList_sorted, getElem?_ofList (t[·]?)]
  · by_cases begins : beginsWith stem key = true
    · rw [if_pos begins]
      split
      · rfl
      · next outside =>
        -- A key under the stem that the scan lacks is not in the table at all.
        cases found : t[key]? with
        | none => rfl
        | some value =>
            have member : (key, value) ∈ t.toList :=
              Std.ExtTreeMap.mem_toList_iff_getElem?_eq_some.mpr found
            exact absurd (List.mem_map_of_mem ((inScan _).mpr ⟨member, begins⟩)) outside
    · rw [if_neg begins, if_neg]
      intro member
      obtain ⟨e, inside, rfl⟩ := List.mem_map.mp member
      exact begins ((inScan e).mp inside).2
  · intro e inside
    exact Std.ExtTreeMap.mem_toList_iff_getElem?_eq_some.mp ((inScan e).mp inside).1

theorem scan_eq_filter (t : Entries) (stem : String) :
    t.scan stem = t.filter fun key _ => beginsWith stem key := by
  apply Std.ExtTreeMap.ext_getElem?
  intro key
  rw [getElem?_scan, Std.ExtTreeMap.getElem?_filter']
  cases t[key]? <;> simp [Option.filter]

/-- A name has what the key under the stem has. -/
theorem getElem?_strip (t : Entries) (stem name : String) :
    (t.strip stem)[name]? = t[stem ++ name]? := by
  have named : ∀ e, e ∈ t.toList.filterMap (fun e => (nameUnder? stem e.1).map (·, e.2)) ↔
      t[stem ++ e.1]? = some e.2 := by
    intro e
    rw [List.mem_filterMap, ← Std.ExtTreeMap.mem_toList_iff_getElem?_eq_some]
    constructor
    · rintro ⟨x, member, same⟩
      obtain ⟨name, under, rfl⟩ := Option.map_eq_some_iff.mp same
      rw [nameUnder?_eq_some_iff] at under
      rwa [← under]
    · intro member
      refine ⟨_, member, ?_⟩
      rw [nameUnder?_eq_some_iff.mpr rfl]
      rfl
  rw [strip, getElem?_ofList fun name => t[stem ++ name]?]
  · split
    · rfl
    · next outside =>
      cases found : t[stem ++ name]? with
      | none => rfl
      | some value => exact absurd (List.mem_map_of_mem ((named (name, value)).mpr found)) outside
  · intro e inside
    exact (named e).mp inside

theorem getElem?_pick (t : Entries) (names : List String) (name : String) :
    (t.pick names)[name]? = if name ∈ names then t[name]? else none := by
  have picked : ∀ e, e ∈ names.filterMap (fun name => t[name]?.map (name, ·)) ↔
      e.1 ∈ names ∧ t[e.1]? = some e.2 := by
    intro e
    rw [List.mem_filterMap]
    constructor
    · rintro ⟨x, asked, same⟩
      obtain ⟨value, found, rfl⟩ := Option.map_eq_some_iff.mp same
      exact ⟨asked, found⟩
    · rintro ⟨asked, found⟩
      exact ⟨e.1, asked, by simp [found]⟩
  rw [pick, getElem?_ofList (t[·]?)]
  · by_cases asked : name ∈ names
    · rw [if_pos asked]
      split
      · rfl
      · next outside =>
        cases found : t[name]? with
        | none => rfl
        | some value =>
            exact absurd (List.mem_map_of_mem ((picked (name, value)).mpr ⟨asked, found⟩)) outside
    · rw [if_neg asked, if_neg]
      intro member
      obtain ⟨e, inside, rfl⟩ := List.mem_map.mp member
      exact asked ((picked e).mp inside).1
  · intro e inside
    exact ((picked e).mp inside).2

/-- The entries asked for have what the table has; no names ask for every name but the empty one. -/
theorem getElem?_choose (t : Entries) (names : List String) {name : String} (real : name ≠ emptyName) :
    (t.choose names)[name]? = if names = [] ∨ name ∈ names then t[name]? else none := by
  unfold choose
  cases names with
  | nil =>
      have other : ¬ compare emptyName name = .eq := by
        intro same
        exact real (Std.LawfulEqOrd.eq_of_compare same).symm
      simp [Std.ExtTreeMap.getElem?_erase, other]
  | cons first rest => simp [getElem?_pick]

end Entries

end TrackedSettings
