import Mathlib.Tactic.SplitIfs
import TrackedSettings.Proofs.Lookup
import TrackedSettings.Store.Authority

/-! # Keys as bytes

Stores keep keys as their bytes in UTF-8 and compare them byte by byte. The encoding keeps the order
of texts, and one text begins with another one just when its bytes begin with the bytes of that one.
So a scan over the bytes of the keys is a scan over the keys, and it finds what a filter finds.
-/

namespace TrackedSettings

/-! ## The order of bytes -/

/-- The bytes of a text in UTF-8. -/
def bytes (text : String) : List UInt8 :=
  text.toByteArray.data.toList

theorem bytes_eq_flatMap (text : String) :
    bytes text = text.toList.flatMap String.utf8EncodeChar := by
  rw [bytes, ← String.utf8Encode_toList, List.utf8Encode, List.toList_data_toByteArray]

theorem ofNat_cons_lt_cons_iff {m n : Nat} (small : m < 256) (small' : n < 256)
    (xs ys : List UInt8) :
    UInt8.ofNat m :: xs < UInt8.ofNat n :: ys ↔ m < n ∨ m = n ∧ xs < ys := by
  have same : UInt8.ofNat m = UInt8.ofNat n ↔ m = n := by
    rw [← UInt8.toNat_inj, UInt8.toNat_ofNat_of_lt' small, UInt8.toNat_ofNat_of_lt' small']
  rw [List.cons_lt_cons_iff, UInt8.ofNat_lt_iff_lt small small', same]

/-- The bytes of a smaller character are smaller, whatever follows them. A longer encoding starts
with a greater byte, and encodings of the same length write the digits of the code point in order. -/
theorem utf8EncodeChar_append_lt {c d : Char} (less : c < d) (xs ys : List UInt8) :
    String.utf8EncodeChar c ++ xs < String.utf8EncodeChar d ++ ys := by
  have below : c.val.toNat < d.val.toNat := less
  have bound : d.val.toNat < 1114112 := by
    rcases d.valid with small | ⟨-, large⟩ <;> omega
  simp only [String.utf8EncodeChar]
  generalize c.val.toNat = m at below
  generalize d.val.toNat = n at below bound
  have high (k : Nat) : k / 4096 = k / 64 / 64 ∧ k / 262144 = k / 64 / 64 / 64 := by omega
  simp only [high]
  -- One case for each pair of lengths that the order of `m` and `n` allows.
  split_ifs <;> first
    | omega
    | simp (disch := omega) only [List.cons_append, List.nil_append, ofNat_cons_lt_cons_iff]
      omega

/-- The bytes of a smaller text are smaller. -/
theorem flatMap_utf8EncodeChar_lt {xs ys : List Char} (less : xs < ys) :
    xs.flatMap String.utf8EncodeChar < ys.flatMap String.utf8EncodeChar := by
  induction xs generalizing ys with
  | nil =>
      cases ys with
      | nil => exact absurd less (List.lt_irrefl _)
      | cons d ys =>
          obtain ⟨b, rest, encoded⟩ :=
            List.exists_cons_of_ne_nil (String.utf8EncodeChar_ne_nil (c := d))
          simp [encoded]
  | cons c xs ih =>
      cases ys with
      | nil => exact absurd less (List.not_lt_nil _)
      | cons d ys =>
          rcases List.cons_lt_cons_iff.mp less with first | ⟨rfl, later⟩
          · exact utf8EncodeChar_append_lt first _ _
          · exact List.append_left_lt (ih later)

/-- Texts come in the order of their bytes. -/
theorem bytes_lt_bytes_iff {text other : String} : bytes text < bytes other ↔ text < other := by
  have keeps : ∀ {x y : String}, x < y → bytes x < bytes y := fun less => by
    simpa only [bytes_eq_flatMap] using flatMap_utf8EncodeChar_lt less
  constructor
  · intro less
    rcases Std.lt_trichotomy text other with below | rfl | above
    · exact below
    · exact absurd less (List.lt_irrefl _)
    · exact absurd (List.lt_trans less (keeps above)) (List.lt_irrefl _)
  · exact keeps

/-! ## Bytes at the start -/

theorem isPrefix_of_flatMap_utf8EncodeChar {xs ys : List Char}
    (begins : xs.flatMap String.utf8EncodeChar <+: ys.flatMap String.utf8EncodeChar) : xs <+: ys := by
  induction xs generalizing ys with
  | nil => exact List.nil_prefix
  | cons c xs ih =>
      obtain ⟨rest, same⟩ := begins
      cases ys with
      | nil => simp [String.utf8EncodeChar_ne_nil] at same
      | cons d ys =>
          simp only [List.flatMap_cons, List.append_assoc] at same
          -- Different characters would make the bytes differ.
          have first : c = d := by
            rcases Std.lt_trichotomy c d with less | same' | less
            · have := utf8EncodeChar_append_lt less (xs.flatMap String.utf8EncodeChar ++ rest)
                (ys.flatMap String.utf8EncodeChar)
              exact absurd (same ▸ this) (List.lt_irrefl _)
            · exact same'
            · have := utf8EncodeChar_append_lt less (ys.flatMap String.utf8EncodeChar)
                (xs.flatMap String.utf8EncodeChar ++ rest)
              exact absurd (same ▸ this) (List.lt_irrefl _)
          subst first
          exact (List.prefix_cons_inj c).mpr (ih ⟨rest, List.append_cancel_left same⟩)

/-- A text begins with another one just when its bytes begin with the bytes of that one. -/
theorem isPrefixOf_bytes (stem key : String) :
    (bytes stem).isPrefixOf (bytes key) = beginsWith stem key := by
  rw [Bool.eq_iff_iff, beginsWith, List.isPrefixOf_iff_prefix, List.isPrefixOf_iff_prefix,
    bytes_eq_flatMap, bytes_eq_flatMap]
  refine ⟨isPrefix_of_flatMap_utf8EncodeChar, ?_⟩
  rintro ⟨rest, same⟩
  exact ⟨rest.flatMap String.utf8EncodeChar, by rw [← same, List.flatMap_append]⟩

/-! ## Scans -/

/-- What a scan finds that compares the keys by their bytes. It starts at the first key not below the
stem and stops at the first that does not begin with it. -/
def scanBytes {β : Type} (stem : String) (entries : List (String × β)) : List (String × β) :=
  (entries.dropWhile fun e => bytes e.1 < bytes stem).takeWhile fun e =>
    (bytes stem).isPrefixOf (bytes e.1)

theorem scanBytes_eq_filter {β : Type} {entries : List (String × β)} (stem : String)
    (sorted : entries.Pairwise fun a b => bytes a.1 < bytes b.1) :
    scanBytes stem entries = entries.filter fun e => (bytes stem).isPrefixOf (bytes e.1) := by
  simp only [scanBytes, bytes_lt_bytes_iff, isPrefixOf_bytes] at sorted ⊢
  exact scanned_eq_filter sorted

theorem Entries.toList_scan (t : Entries) (stem : String) :
    (t.scan stem).toList = t.toList.filter fun e => (bytes stem).isPrefixOf (bytes e.1) := by
  simp only [scan_eq_filter, Std.ExtTreeMap.toList_filter, isPrefixOf_bytes]

/-- A listing scans the keys in the order of their bytes, from the stem up to the first key that does
not begin with it. It finds all the entries whose keys begin with the stem, with their values, and no
others. -/
theorem Authority.listing_is_filter (a : Authority) (stem : String) (request : ReadRequest)
    (s : Shared) :
    (a.entries.toList.Pairwise fun x y => bytes x.1 < bytes y.1) ∧
      scanBytes stem a.entries.toList =
        a.entries.toList.filter (fun e => (bytes stem).isPrefixOf (bytes e.1)) ∧
      ∃ listing, (a.answer (.list stem request) s).1 = .ok (some listing) ∧
        listing.entries.toList = scanBytes stem a.entries.toList ∧
        ∀ key, listing.entries[key]? =
          if (bytes stem).isPrefixOf (bytes key) then a.entries[key]? else none := by
  have sorted : a.entries.toList.Pairwise fun x y => bytes x.1 < bytes y.1 := by
    simpa only [bytes_lt_bytes_iff] using a.entries.toList_sorted
  have found := scanBytes_eq_filter stem sorted
  refine ⟨sorted, found, (a.list stem request s).1, rfl, ?_, fun key => ?_⟩
  · rw [found]
    exact a.entries.toList_scan stem
  · rw [isPrefixOf_bytes]
    exact a.entries.getElem?_scan stem key

end TrackedSettings
