import Mathlib.Tactic.SplitIfs
import VmLifecycle.Text.Utf8

namespace VmLifecycle.Utf8

theorem toNat_ofNat_byte {n : Nat} (hn : n < 256) : (UInt8.ofNat n).toNat = n := by
  simp [Nat.mod_eq_of_lt hn]

section Tail

variable {b : UInt8} {n : Nat}

theorem isTail_iff : isTail b = true ↔ 0x80 ≤ b.toNat ∧ b.toNat ≤ 0xbf := by
  simp [isTail]

theorem tail_lt (hb : isTail b = true) : tail b < 64 := by
  have hbounds := isTail_iff.mp hb
  unfold tail
  omega

theorem ofNat_tail (hb : isTail b = true) : UInt8.ofNat (0x80 + tail b) = b := by
  have hbounds := isTail_iff.mp hb
  have hsum : 0x80 + tail b = b.toNat := by
    unfold tail
    omega
  rw [hsum, UInt8.ofNat_toNat]

theorem isTail_ofNat (hn : n < 64) : isTail (UInt8.ofNat (0x80 + n)) = true := by
  rw [isTail_iff, toNat_ofNat_byte (by omega)]
  omega

theorem tail_ofNat (hn : n < 64) : tail (UInt8.ofNat (0x80 + n)) = n := by
  unfold tail
  rw [toNat_ofNat_byte (by omega)]
  omega

theorem isSecond_iff {a : UInt8} :
    isSecond a b = true ↔ isTail b = true ∧
      (a.toNat = 0xe0 → 0x20 ≤ tail b) ∧ (a.toNat = 0xed → tail b < 0x20) ∧
      (a.toNat = 0xf0 → 0x10 ≤ tail b) ∧ (a.toNat = 0xf4 → tail b < 0x10) := by
  unfold isSecond tail
  simp only [isTail_iff]
  split_ifs <;> simp [isTail_iff] <;> omega

end Tail

/-- The bytes of one encoded character, by how many they are, with its code. -/
inductive Form : Bytes → Nat → Prop
  | one {a : UInt8} (ha : a.toNat < 0x80) : Form [a] a.toNat
  | two {a b : UInt8} (hlow : 0xc2 ≤ a.toNat) (hhigh : a.toNat ≤ 0xdf)
      (hb : isTail b = true) :
      Form [a, b] ((a.toNat - 0xc0) * 64 + tail b)
  | three {a b c : UInt8} (hlow : 0xe0 ≤ a.toNat) (hhigh : a.toNat ≤ 0xef)
      (hb : isSecond a b = true) (hc : isTail c = true) :
      Form [a, b, c] ((a.toNat - 0xe0) * 4096 + tail b * 64 + tail c)
  | four {a b c d : UInt8} (hlow : 0xf0 ≤ a.toNat) (hhigh : a.toNat ≤ 0xf4)
      (hb : isSecond a b = true) (hc : isTail c = true) (hd : isTail d = true) :
      Form [a, b, c, d]
        ((a.toNat - 0xf0) * 262144 + tail b * 4096 + tail c * 64 + tail d)

theorem form_encodeChar (c : Char) : Form (encodeChar c) c.toNat := by
  have hbounds : c.toNat < 0xd800 ∨ 0xdfff < c.toNat ∧ c.toNat < 0x110000 := c.valid
  simp only [encodeChar]
  obtain ⟨code, hcode⟩ : ∃ code, c.toNat = code := ⟨_, rfl⟩
  rw [hcode] at hbounds ⊢
  split_ifs with hone htwo hthree
  · have ha := toNat_ofNat_byte (n := code) (by omega)
    have hform := Form.one (a := UInt8.ofNat code) (by omega)
    rwa [ha] at hform
  · have ha := toNat_ofNat_byte (n := 0xc0 + code / 64) (by omega)
    have hform := Form.two (a := UInt8.ofNat (0xc0 + code / 64)) (by omega) (by omega)
      (isTail_ofNat (n := code % 64) (by omega))
    rw [ha, tail_ofNat (by omega)] at hform
    have hsum : (0xc0 + code / 64 - 0xc0) * 64 + code % 64 = code := by omega
    rwa [hsum] at hform
  · have ha := toNat_ofNat_byte (n := 0xe0 + code / 4096) (by omega)
    have hb : isSecond (UInt8.ofNat (0xe0 + code / 4096))
        (UInt8.ofNat (0x80 + code / 64 % 64)) = true := by
      rw [isSecond_iff, ha, tail_ofNat (by omega)]
      refine ⟨isTail_ofNat (by omega), ?_⟩
      omega
    have hform := Form.three (by omega) (by omega) hb
      (isTail_ofNat (n := code % 64) (by omega))
    rw [ha, tail_ofNat (by omega), tail_ofNat (by omega)] at hform
    have hsum : (0xe0 + code / 4096 - 0xe0) * 4096 + code / 64 % 64 * 64 +
        code % 64 = code := by omega
    rwa [hsum] at hform
  · have ha := toNat_ofNat_byte (n := 0xf0 + code / 262144) (by omega)
    have hb : isSecond (UInt8.ofNat (0xf0 + code / 262144))
        (UInt8.ofNat (0x80 + code / 4096 % 64)) = true := by
      rw [isSecond_iff, ha, tail_ofNat (by omega)]
      refine ⟨isTail_ofNat (by omega), ?_⟩
      omega
    have hform := Form.four (by omega) (by omega) hb
      (isTail_ofNat (n := code / 64 % 64) (by omega))
      (isTail_ofNat (n := code % 64) (by omega))
    rw [ha, tail_ofNat (by omega), tail_ofNat (by omega), tail_ofNat (by omega)] at hform
    have hsum : (0xf0 + code / 262144 - 0xf0) * 262144 + code / 4096 % 64 * 4096 +
        code / 64 % 64 * 64 + code % 64 = code := by omega
    rwa [hsum] at hform

namespace Form

theorem isValidChar {bytes : Bytes} {code : Nat} (form : Form bytes code) :
    code.isValidChar := by
  unfold Nat.isValidChar
  cases form with
  | one ha => omega
  | two hlow hhigh hb =>
      have hltb := tail_lt hb
      omega
  | three hlow hhigh hb hc =>
      obtain ⟨hb, hsecond⟩ := isSecond_iff.mp hb
      have hltb := tail_lt hb
      have hltc := tail_lt hc
      omega
  | four hlow hhigh hb hc hd =>
      obtain ⟨hb, hsecond⟩ := isSecond_iff.mp hb
      have hltb := tail_lt hb
      have hltc := tail_lt hc
      have hltd := tail_lt hd
      omega

theorem encodeChar_eq {bytes : Bytes} {code : Nat} (form : Form bytes code) :
    encodeChar (Char.ofNat code) = bytes := by
  have hcode : (Char.ofNat code).toNat = code := by
    rw [Char.ofNat, dif_pos form.isValidChar]
    rfl
  simp only [encodeChar, hcode]
  cases form with
  | one ha => rw [if_pos ha, UInt8.ofNat_toNat]
  | @two a b hlow hhigh hb =>
      have hltb := tail_lt hb
      generalize hsum : (a.toNat - 0xc0) * 64 + tail b = code
      have ha : 0xc0 + code / 64 = a.toNat := by omega
      have hlast : code % 64 = tail b := by omega
      rw [if_neg (by omega), if_pos (by omega), ha, hlast, UInt8.ofNat_toNat,
        ofNat_tail hb]
  | @three a b c hlow hhigh hb hc =>
      obtain ⟨hb, hsecond⟩ := isSecond_iff.mp hb
      have hltb := tail_lt hb
      have hltc := tail_lt hc
      generalize hsum : (a.toNat - 0xe0) * 4096 + tail b * 64 + tail c = code
      have ha : 0xe0 + code / 4096 = a.toNat := by omega
      have hmid : code / 64 % 64 = tail b := by omega
      have hlast : code % 64 = tail c := by omega
      rw [if_neg (by omega), if_neg (by omega), if_pos (by omega), ha, hmid, hlast,
        UInt8.ofNat_toNat, ofNat_tail hb, ofNat_tail hc]
  | @four a b c d hlow hhigh hb hc hd =>
      obtain ⟨hb, hsecond⟩ := isSecond_iff.mp hb
      have hltb := tail_lt hb
      have hltc := tail_lt hc
      have hltd := tail_lt hd
      generalize hsum :
        (a.toNat - 0xf0) * 262144 + tail b * 4096 + tail c * 64 + tail d = code
      have ha : 0xf0 + code / 262144 = a.toNat := by omega
      have hfirst : code / 4096 % 64 = tail b := by omega
      have hmid : code / 64 % 64 = tail c := by omega
      have hlast : code % 64 = tail d := by omega
      rw [if_neg (by omega), if_neg (by omega), if_neg (by omega), ha, hfirst, hmid,
        hlast, UInt8.ofNat_toNat, ofNat_tail hb, ofNat_tail hc, ofNat_tail hd]

theorem piece_eq {lead : UInt8} {more : Bytes} {code : Nat}
    (form : Form (lead :: more) code) (rest : Bytes) :
    piece lead (more ++ rest) = (some (Char.ofNat code), more.length) := by
  simp only [piece, Bool.and_eq_true, decide_eq_true_eq]
  cases form with
  | one ha =>
      rw [if_pos ha]
      rfl
  | two hlow hhigh hb =>
      rw [if_neg (by omega), if_pos (by omega)]
      simp [hb]
  | three hlow hhigh hb hc =>
      rw [if_neg (by omega), if_neg (by omega), if_pos (by omega)]
      simp [hb, hc]
  | four hlow hhigh hb hc hd =>
      rw [if_neg (by omega), if_neg (by omega), if_neg (by omega), if_pos (by omega)]
      simp [hb, hc, hd]

end Form

theorem form_of_piece {lead : UInt8} {bytes : Bytes} {c : Char} {n : Nat}
    (hpiece : piece lead bytes = (some c, n)) :
    ∃ more rest code, bytes = more ++ rest ∧ n = more.length ∧
      Form (lead :: more) code ∧ c = Char.ofNat code := by
  simp only [piece, Bool.and_eq_true, decide_eq_true_eq] at hpiece
  split_ifs at hpiece with hone htwo hthree hfour
  · simp only [Prod.mk.injEq, Option.some.injEq] at hpiece
    obtain ⟨rfl, rfl⟩ := hpiece
    exact ⟨[], bytes, _, rfl, rfl, .one hone, rfl⟩
  · split at hpiece
    · split_ifs at hpiece with hb
      · simp only [Prod.mk.injEq, Option.some.injEq] at hpiece
        obtain ⟨rfl, rfl⟩ := hpiece
        exact ⟨[_], _, _, rfl, rfl, .two htwo.1 htwo.2 hb, rfl⟩
      · simp at hpiece
    · simp at hpiece
  · split at hpiece
    · split_ifs at hpiece with hb hc
      · simp only [Prod.mk.injEq, Option.some.injEq] at hpiece
        obtain ⟨rfl, rfl⟩ := hpiece
        exact ⟨[_, _], _, _, rfl, rfl, .three hthree.1 hthree.2 hb hc, rfl⟩
      all_goals simp at hpiece
    all_goals simp at hpiece
  · split at hpiece
    · split_ifs at hpiece with hb hc hd
      · simp only [Prod.mk.injEq, Option.some.injEq] at hpiece
        obtain ⟨rfl, rfl⟩ := hpiece
        exact ⟨[_, _, _], _, _, rfl, rfl, .four hfour.1 hfour.2 hb hc hd, rfl⟩
      all_goals simp at hpiece
    all_goals simp at hpiece
  · simp at hpiece

theorem pieces_encodeChar (c : Char) (rest : Bytes) :
    pieces (encodeChar c ++ rest) = some c :: pieces rest := by
  have form := form_encodeChar c
  cases hbytes : encodeChar c with
  | nil =>
      rw [hbytes] at form
      cases form
  | cons lead more =>
      rw [hbytes] at form
      rw [List.cons_append, pieces_cons, form.piece_eq, List.drop_left, Char.ofNat_toNat]

theorem pieces_encodeChars (cs : List Char) :
    pieces (encodeChars cs) = cs.map some := by
  induction cs with
  | nil => exact pieces_nil
  | cons c cs ih =>
      have hcons : encodeChars (c :: cs) = encodeChar c ++ encodeChars cs := by
        simp [encodeChars]
      rw [hcons, pieces_encodeChar, ih, List.map_cons]

theorem encodeChars_of_pieces {bytes : Bytes} {cs : List Char}
    (hpieces : pieces bytes = cs.map some) : encodeChars cs = bytes := by
  induction cs generalizing bytes with
  | nil =>
      cases bytes with
      | nil => rfl
      | cons lead rest =>
          rw [pieces_cons] at hpieces
          cases hpieces
  | cons c cs ih =>
      cases bytes with
      | nil =>
          rw [pieces_nil] at hpieces
          cases hpieces
      | cons lead bytes =>
          rw [pieces_cons, List.map_cons, List.cons.injEq] at hpieces
          obtain ⟨hfirst, hlater⟩ := hpieces
          have hpiece : piece lead bytes = (some c, (piece lead bytes).2) :=
            Prod.ext hfirst rfl
          obtain ⟨more, rest, code, rfl, hlength, form, rfl⟩ := form_of_piece hpiece
          rw [hlength, List.drop_left] at hlater
          have hrest := ih hlater
          rw [encodeChars] at hrest ⊢
          rw [List.flatMap_cons, form.encodeChar_eq, hrest, List.cons_append]

theorem mapM_id_eq_some_iff {items : List (Option α)} {values : List α} :
    items.mapM id = some values ↔ items = values.map some := by
  induction items generalizing values with
  | nil => cases values <;> simp
  | cons item items ih =>
      cases item with
      | none => cases values <;> simp
      | some value =>
          have hcons : (some value :: items).mapM id =
              (items.mapM id).map (value :: ·) := by
            rw [List.mapM_cons]
            cases items.mapM id <;> rfl
          rw [hcons, Option.map_eq_some_iff]
          constructor
          · rintro ⟨later, hlater, rfl⟩
            rw [ih.mp hlater, List.map_cons]
          · intro hsame
            cases values with
            | nil => cases hsame
            | cons first later =>
                obtain ⟨hfirst, hlater⟩ := List.cons.inj hsame
                cases hfirst
                exact ⟨later, ih.mpr hlater, rfl⟩

theorem decode?_eq_some_iff {bytes : Bytes} {text : String} :
    decode? bytes = some text ↔ encode text = bytes := by
  constructor
  · intro hdecode
    obtain ⟨cs, hcs, rfl⟩ := Option.map_eq_some_iff.mp hdecode
    rw [encode, String.toList_ofList]
    exact encodeChars_of_pieces (mapM_id_eq_some_iff.mp hcs)
  · rintro rfl
    rw [decode?, Option.map_eq_some_iff]
    refine ⟨text.toList, ?_, String.ofList_toList⟩
    rw [mapM_id_eq_some_iff, encode, pieces_encodeChars]

end VmLifecycle.Utf8
