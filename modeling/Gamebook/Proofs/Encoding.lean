-- Reading UTF-8 is the inverse of writing it. A unit that is a character has the bytes of that
-- character, and the bytes of a character are one unit whatever comes after them; so bytes are read
-- as a text where they are the bytes of that text, and all other bytes are not read.
import Gamebook.Text.Utf8
import Mathlib.Data.List.Basic

namespace Gamebook.Text.Utf8

/-! ## First bytes -/

/-- The least byte that may follow a first byte: less would be a character of fewer bytes. -/
def least (n : Nat) : Nat := if n = 0xe0 then 0xa0 else if n = 0xf0 then 0x90 else 0x80

/-- The greatest byte that may follow a first byte: more would be a surrogate, or too large. -/
def greatest (n : Nat) : Nat := if n = 0xed then 0x9f else if n = 0xf4 then 0x8f else 0xbf

theorem toNat_least (n : Nat) : (UInt8.ofNat (least n)).toNat = least n := by
  unfold least
  split_ifs <;> rfl

theorem toNat_greatest (n : Nat) : (UInt8.ofNat (greatest n)).toNat = greatest n := by
  unfold greatest
  split_ifs <;> rfl

theorem lead_eq (b : UInt8) :
    lead b =
      if b.toNat < 0xc2 then none
      else if b.toNat < 0xe0 then some (1, .ofNat (least b.toNat), .ofNat (greatest b.toNat))
      else if b.toNat < 0xf0 then some (2, .ofNat (least b.toNat), .ofNat (greatest b.toNat))
      else if b.toNat < 0xf5 then some (3, .ofNat (least b.toNat), .ofNat (greatest b.toNat))
      else none := by
  -- There are only 256 first bytes.
  have hall : ∀ n : Fin 256, lead (.ofFin n) =
      if n.val < 0xc2 then none
      else if n.val < 0xe0 then some (1, .ofNat (least n), .ofNat (greatest n))
      else if n.val < 0xf0 then some (2, .ofNat (least n), .ofNat (greatest n))
      else if n.val < 0xf5 then some (3, .ofNat (least n), .ofNat (greatest n))
      else none := by decide +kernel
  exact hall b.toFin

/-- What is at the front is decided by the range that the first byte lies in. -/
theorem front_eq (b : UInt8) (bs : List UInt8) :
    front b bs =
      if b.toNat < 0x80 then (.char (Char.ofNat b.toNat), 0)
      else if b.toNat < 0xc2 then (.bad 1, 0)
      else if b.toNat < 0xe0 then
        follow (b.toNat - 0xc0) 1 1 (.ofNat (least b.toNat)) (.ofNat (greatest b.toNat)) bs
      else if b.toNat < 0xf0 then
        follow (b.toNat - 0xe0) 1 2 (.ofNat (least b.toNat)) (.ofNat (greatest b.toNat)) bs
      else if b.toNat < 0xf5 then
        follow (b.toNat - 0xf0) 1 3 (.ofNat (least b.toNat)) (.ofNat (greatest b.toNat)) bs
      else (.bad 1, 0) := by
  have hlt : b < 0x80 ↔ b.toNat < 0x80 := UInt8.lt_iff_toNat_lt
  simp only [front, lead_eq, hlt]
  split_ifs <;> rfl

/-! ## Bytes that follow -/

section

variable {code taken due k n m : Nat} {lo hi b : UInt8} {bs rest : List UInt8} {c : Char}

/-- Where no more bytes are due, the character is complete. -/
theorem follow_zero_char :
    follow code taken 0 lo hi bs = (.char c, k) ↔ Char.ofNat code = c ∧ taken - 1 = k := by
  rw [follow, Prod.mk.injEq, Item.char.injEq]

theorem follow_succ (hlo : lo.toNat ≤ b.toNat) (hhi : b.toNat ≤ hi.toNat) :
    follow code taken (due + 1) lo hi (b :: rest) =
      follow (64 * code + (b.toNat - 0x80)) (taken + 1) due 0x80 0xbf rest := by
  rw [follow, if_pos]
  simp only [Bool.and_eq_true, decide_eq_true_eq, UInt8.le_iff_toNat_le]
  exact ⟨hlo, hhi⟩

/-- If there is a character although a byte is due, then that byte is there. -/
theorem follow_succ_char (h : follow code taken (due + 1) lo hi bs = (.char c, k)) :
    ∃ b rest, bs = b :: rest ∧ lo.toNat ≤ b.toNat ∧ b.toNat ≤ hi.toNat ∧
      follow (64 * code + (b.toNat - 0x80)) (taken + 1) due 0x80 0xbf rest = (.char c, k) := by
  rcases bs with _ | ⟨b, rest⟩
  · cases h
  · rw [follow] at h
    split at h
    · rename_i hrange
      simp only [Bool.and_eq_true, decide_eq_true_eq, UInt8.le_iff_toNat_le] at hrange
      exact ⟨b, rest, rfl, hrange.1, hrange.2, h⟩
    · cases h

/-- The second byte, which has a range of its own. -/
theorem second_of_char
    (h : follow code taken (due + 1) (.ofNat (least n)) (.ofNat (greatest n)) bs = (.char c, k)) :
    ∃ b rest, bs = b :: rest ∧ (0x80 ≤ b.toNat ∧ b.toNat ≤ 0xbf) ∧ least n ≤ b.toNat ∧
      b.toNat ≤ greatest n ∧
      follow (64 * code + (b.toNat - 0x80)) (taken + 1) due 0x80 0xbf rest = (.char c, k) := by
  obtain ⟨b, rest, hbs, hlo, hhi, h⟩ := follow_succ_char h
  rw [toNat_least] at hlo
  rw [toNat_greatest] at hhi
  exact ⟨b, rest, hbs, by grind [least, greatest], hlo, hhi, h⟩

/-- The bytes after the second, which may be any that continue a character. -/
theorem later_of_char (h : follow code taken (due + 1) 0x80 0xbf bs = (.char c, k)) :
    ∃ b rest, bs = b :: rest ∧ (0x80 ≤ b.toNat ∧ b.toNat ≤ 0xbf) ∧
      follow (64 * code + (b.toNat - 0x80)) (taken + 1) due 0x80 0xbf rest = (.char c, k) := by
  obtain ⟨b, rest, hbs, hlo, hhi, h⟩ := follow_succ_char h
  exact ⟨b, rest, hbs, ⟨hlo, hhi⟩, h⟩

theorem toNat_later (m : Nat) : (UInt8.ofNat (m % 64 + 0x80)).toNat = m % 64 + 0x80 := by
  have hlt : m % 64 + 0x80 < 256 := by omega
  exact UInt8.toNat_ofNat_of_lt' hlt

/-- A later byte adds six bits to the code. -/
theorem follow_later (code taken due m : Nat) (rest : List UInt8) :
    follow code taken (due + 1) 0x80 0xbf (.ofNat (m % 64 + 0x80) :: rest) =
      follow (64 * code + m % 64) (taken + 1) due 0x80 0xbf rest := by
  have hlt : m % 64 < 64 := Nat.mod_lt _ (by decide)
  rw [follow_succ, toNat_later, Nat.add_sub_cancel]
  · rw [toNat_later]
    exact Nat.le_add_left _ _
  · rw [toNat_later]
    exact Nat.add_le_add_right (Nat.le_of_lt_succ hlt) _

/-- So does the second, if it is in its range. -/
theorem follow_second (hlo : least n ≤ m % 64 + 0x80) (hhi : m % 64 + 0x80 ≤ greatest n) :
    follow code taken (due + 1) (.ofNat (least n)) (.ofNat (greatest n))
        (.ofNat (m % 64 + 0x80) :: rest) =
      follow (64 * code + m % 64) (taken + 1) due 0x80 0xbf rest := by
  rw [follow_succ, toNat_later, Nat.add_sub_cancel]
  · rwa [toNat_least, toNat_later]
  · rwa [toNat_greatest, toNat_later]

end

/-! ## The bytes of a character -/

section

variable {n : Nat}

theorem toNat_of_valid (hv : n.isValidChar) : (Char.ofNat n).val.toNat = n := by
  rw [Char.ofNat, dif_pos hv]
  rfl

theorem encodeChar_one (h : n < 0x80) : String.utf8EncodeChar (Char.ofNat n) = [.ofNat n] := by
  rw [String.utf8EncodeChar.eq_def, toNat_of_valid (by omega), if_pos (by omega)]

theorem encodeChar_two (h1 : 0x80 ≤ n) (h2 : n < 0x800) :
    String.utf8EncodeChar (Char.ofNat n) = [.ofNat (n / 64 + 0xc0), .ofNat (n % 64 + 0x80)] := by
  have hfirst : n / 64 % 32 = n / 64 := by omega
  rw [String.utf8EncodeChar.eq_def, toNat_of_valid (by omega), if_neg (by omega),
    if_pos (by omega), hfirst]

theorem encodeChar_three (h1 : 0x800 ≤ n) (h2 : n < 0x10000) (hv : n.isValidChar) :
    String.utf8EncodeChar (Char.ofNat n) =
      [.ofNat (n / 4096 + 0xe0), .ofNat (n / 64 % 64 + 0x80), .ofNat (n % 64 + 0x80)] := by
  have hfirst : n / 4096 % 16 = n / 4096 := by omega
  rw [String.utf8EncodeChar.eq_def, toNat_of_valid hv, if_neg (by omega), if_neg (by omega),
    if_pos (by omega), hfirst]

theorem encodeChar_four (h1 : 0x10000 ≤ n) (h2 : n < 0x110000) :
    String.utf8EncodeChar (Char.ofNat n) =
      [.ofNat (n / 262144 + 0xf0), .ofNat (n / 4096 % 64 + 0x80), .ofNat (n / 64 % 64 + 0x80),
        .ofNat (n % 64 + 0x80)] := by
  have hfirst : n / 262144 % 8 = n / 262144 := by omega
  rw [String.utf8EncodeChar.eq_def, toNat_of_valid (by omega), if_neg (by omega),
    if_neg (by omega), if_neg (by omega), hfirst]

theorem ofNat_eq {b : UInt8} (h : n = b.toNat) : UInt8.ofNat n = b := by rw [h, UInt8.ofNat_toNat]

end

/-- A unit that is a character is made of the bytes of that character. -/
theorem bytes_of_front {b : UInt8} {bs : List UInt8} {c : Char} {k : Nat}
    (h : front b bs = (.char c, k)) : b :: bs = String.utf8EncodeChar c ++ bs.drop k := by
  rw [front_eq] at h
  split_ifs at h with h1 h2 h3 h4 h5
  · cases h
    rw [encodeChar_one h1, UInt8.ofNat_toNat]
    rfl
  · cases h
  · obtain ⟨b₁, rest, rfl, hb₁, -, -, h⟩ := second_of_char h
    obtain ⟨rfl, rfl⟩ := follow_zero_char.mp h
    rw [encodeChar_two (by omega) (by omega), ofNat_eq (b := b) (by omega),
      ofNat_eq (b := b₁) (by omega)]
    rfl
  · obtain ⟨b₁, rest, rfl, hb₁, hlo, hhi, h⟩ := second_of_char h
    obtain ⟨b₂, rest, rfl, hb₂, h⟩ := later_of_char h
    obtain ⟨rfl, rfl⟩ := follow_zero_char.mp h
    have hleast : 0x800 ≤ 64 * (64 * (b.toNat - 0xe0) + (b₁.toNat - 0x80)) := by grind [least]
    have hvalid : (64 * (64 * (b.toNat - 0xe0) + (b₁.toNat - 0x80)) +
        (b₂.toNat - 0x80)).isValidChar := by
      rcases Nat.lt_trichotomy b.toNat 0xed with hb | hb | hb
      · exact .inl (by omega)
      · rw [hb] at hhi
        have hhi : b₁.toNat ≤ 0x9f := hhi
        exact .inl (by omega)
      · exact .inr (by omega)
    rw [encodeChar_three (by omega) (by omega) hvalid, ofNat_eq (b := b) (by omega),
      ofNat_eq (b := b₁) (by omega), ofNat_eq (b := b₂) (by omega)]
    rfl
  · obtain ⟨b₁, rest, rfl, hb₁, hlo, hhi, h⟩ := second_of_char h
    obtain ⟨b₂, rest, rfl, hb₂, h⟩ := later_of_char h
    obtain ⟨b₃, rest, rfl, hb₃, h⟩ := later_of_char h
    obtain ⟨rfl, rfl⟩ := follow_zero_char.mp h
    have hleast : 0x10 ≤ 64 * (b.toNat - 0xf0) + (b₁.toNat - 0x80) := by grind [least]
    have hgreatest : 64 * (b.toNat - 0xf0) + (b₁.toNat - 0x80) < 0x110 := by grind [greatest]
    rw [encodeChar_four (by omega) (by omega), ofNat_eq (b := b) (by omega),
      ofNat_eq (b := b₁) (by omega), ofNat_eq (b := b₂) (by omega), ofNat_eq (b := b₃) (by omega)]
    rfl
  · cases h

/-- The bytes of a character are a unit, whatever comes after them. -/
theorem front_of_bytes (c : Char) (rest : List UInt8) :
    ∃ b bs k, String.utf8EncodeChar c ++ rest = b :: bs ∧ front b bs = (.char c, k) ∧
      bs.drop k = rest := by
  obtain ⟨n, hv, rfl⟩ : ∃ n, n.isValidChar ∧ c = Char.ofNat n :=
    ⟨c.toNat, c.valid, (Char.ofNat_toNat c).symm⟩
  have hfirst : ∀ m < 256, (UInt8.ofNat m).toNat = m := fun _ hm => UInt8.toNat_ofNat_of_lt' hm
  rcases Nat.lt_or_ge n 0x80 with h1 | h1
  · refine ⟨.ofNat n, rest, 0, by rw [encodeChar_one h1]; rfl, ?_, rfl⟩
    rw [front_eq, hfirst n (by omega), if_pos h1]
  rcases Nat.lt_or_ge n 0x800 with h2 | h2
  · refine ⟨_, .ofNat (n % 64 + 0x80) :: rest, 1, by rw [encodeChar_two h1 h2]; rfl, ?_, rfl⟩
    rw [front_eq, hfirst (n / 64 + 0xc0) (by omega), if_neg (by omega), if_neg (by omega),
      if_pos (by omega), follow_second (by grind [least]) (by grind [greatest]), follow_zero_char]
    exact ⟨congrArg Char.ofNat (by omega), rfl⟩
  rcases Nat.lt_or_ge n 0x10000 with h3 | h3
  · have hhi : n / 64 % 64 + 0x80 ≤ greatest (n / 4096 + 0xe0) := by
      rcases hv with hv | hv <;> grind [greatest]
    refine ⟨_, .ofNat (n / 64 % 64 + 0x80) :: .ofNat (n % 64 + 0x80) :: rest, 2,
      by rw [encodeChar_three h2 h3 hv]; rfl, ?_, rfl⟩
    rw [front_eq, hfirst (n / 4096 + 0xe0) (by omega), if_neg (by omega), if_neg (by omega),
      if_neg (by omega), if_pos (by omega), follow_second (by grind [least]) hhi, follow_later,
      follow_zero_char]
    exact ⟨congrArg Char.ofNat (by omega), rfl⟩
  · have hlt : n < 0x110000 := by rcases hv with hv | hv <;> omega
    refine ⟨_, .ofNat (n / 4096 % 64 + 0x80) :: .ofNat (n / 64 % 64 + 0x80) ::
      .ofNat (n % 64 + 0x80) :: rest, 3, by rw [encodeChar_four h3 hlt]; rfl, ?_, rfl⟩
    rw [front_eq, hfirst (n / 262144 + 0xf0) (by omega), if_neg (by omega), if_neg (by omega),
      if_neg (by omega), if_neg (by omega), if_pos (by omega),
      follow_second (by grind [least]) (by grind [greatest]), follow_later, follow_later,
      follow_zero_char]
    exact ⟨congrArg Char.ofNat (by omega), rfl⟩

/-! ## All units -/

theorem unitsFrom_eq_drop (k : Nat) (bs : List UInt8) : unitsFrom k bs = units (bs.drop k) := by
  induction k generalizing bs with
  | zero => rfl
  | succ k ih =>
    cases bs with
    | nil => rfl
    | cons b bs => exact ih bs

theorem units_cons (b : UInt8) (bs : List UInt8) :
    units (b :: bs) = (front b bs).1 :: units (bs.drop (front b bs).2) := by
  rw [← unitsFrom_eq_drop]
  rfl

theorem units_of_bytes (cs : List Char) :
    units (cs.flatMap String.utf8EncodeChar) = cs.map .char := by
  induction cs with
  | nil => rfl
  | cons c cs ih =>
    obtain ⟨b, bs, k, hbytes, hfront, hdrop⟩ :=
      front_of_bytes c (cs.flatMap String.utf8EncodeChar)
    rw [List.flatMap_cons, hbytes, units_cons, hfront, hdrop, ih]
    rfl

theorem bytes_of_units {bs : List UInt8} {cs : List Char} (h : units bs = cs.map .char) :
    bs = cs.flatMap String.utf8EncodeChar := by
  induction cs generalizing bs with
  | nil =>
    cases bs with
    | nil => rfl
    | cons b bs => cases h
  | cons c cs ih =>
    cases bs with
    | nil => cases h
    | cons b bs =>
      rw [units_cons, List.map_cons, List.cons.injEq] at h
      rw [List.flatMap_cons, ← ih h.2]
      exact bytes_of_front (Prod.ext h.1 rfl)

/-! ## Reading -/

/-- Only characters make a text, and they are all of it. -/
theorem charsFrom_eq_ok {items : List Item} {cs : List Char} {index : Nat} :
    charsFrom index items = .ok cs ↔ items = cs.map .char := by
  induction items generalizing index cs with
  | nil => cases cs <;> simp [charsFrom]
  | cons i items ih =>
    cases i with
    | char c =>
      rw [charsFrom]
      cases hr : charsFrom (index + c.utf8Size) items with
      | ok ds =>
        obtain rfl := ih.mp hr
        cases cs with
        | nil => simp [Except.map]
        | cons d es =>
          have hinj : ds.map Item.char = es.map .char ↔ ds = es :=
            (List.map_injective_iff.mpr fun _ _ h => Item.char.inj h).eq_iff
          simp [Except.map, hinj]
      | error fault =>
        have hnone : ∀ es : List Char, items ≠ es.map .char := by
          intro es hes
          rw [ih.mpr hes] at hr
          cases hr
        cases cs with
        | nil => simp [Except.map]
        | cons d es => simp [Except.map, hnone es]
    | bad n => cases cs <;> simp [charsFrom]
    | truncated => cases cs <;> simp [charsFrom]

/-- Bytes are read as a text where they are the bytes of that text, and nowhere else. -/
theorem decode_eq_ok {bs : List UInt8} {s : String} :
    decode bs = .ok s ↔ bs = s.toUTF8.data.toList := by
  have hbytes : s.toUTF8.data.toList = s.toList.flatMap String.utf8EncodeChar := by
    rw [String.toUTF8, ← String.utf8Encode_toList, List.utf8Encode, List.toList_data_toByteArray]
  have hdecode : decode bs = .ok s ↔ charsFrom 0 (units bs) = .ok s.toList := by
    unfold decode
    cases charsFrom 0 (units bs) with
    | ok cs => simp [Except.map, String.ext_iff]
    | error fault => simp [Except.map]
  rw [hdecode, charsFrom_eq_ok, hbytes]
  constructor
  · exact bytes_of_units
  · rintro rfl
    exact units_of_bytes s.toList

/-- Bytes that are not read are those of no text. -/
theorem decode_eq_error {bs : List UInt8} :
    (∃ fault, decode bs = .error fault) ↔ ∀ s : String, bs ≠ s.toUTF8.data.toList := by
  constructor
  · rintro ⟨fault, hfault⟩ s hs
    rw [decode_eq_ok.mpr hs] at hfault
    cases hfault
  · intro hnone
    cases hr : decode bs with
    | ok s => exact absurd (decode_eq_ok.mp hr) (hnone s)
    | error fault => exact ⟨fault, rfl⟩

end Gamebook.Text.Utf8
