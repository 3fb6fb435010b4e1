import VmLifecycle.Proofs.Text.Utf8

namespace VmLifecycle.Utf8

/-! Decoding that cannot fail: it works on both sides of an ASCII byte apart, and it shows nothing
ill-formed as anything but the replacement character. -/

section Cut

variable {lead b : UInt8}

theorem isTail_of_ascii (hb : b.toNat < 0x80) : isTail b = false := by
  rw [Bool.eq_false_iff, ne_eq, isTail_iff]
  omega

theorem isSecond_of_ascii (hb : b.toNat < 0x80) : isSecond lead b = false := by
  rw [Bool.eq_false_iff, ne_eq, isSecond_iff, isTail_of_ascii hb]
  simp

/-- No piece goes on with an ASCII byte, be it cut short by that byte or by the end. -/
theorem piece_append_ascii (hb : b.toNat < 0x80) (more rest : Bytes) :
    piece lead (more ++ b :: rest) = piece lead more := by
  have htail := isTail_of_ascii hb
  have hsecond : isSecond lead b = false := isSecond_of_ascii hb
  -- A piece has at most three bytes behind its lead: the cases are where the ASCII byte stands.
  rcases more with _ | ⟨second, _ | ⟨third, _ | ⟨fourth, more⟩⟩⟩
  · cases rest with
    | nil => simp [piece, htail, hsecond]
    | cons c rest => cases rest <;> simp [piece, htail, hsecond]
  · cases rest <;> cases hfirst : isSecond lead second <;> simp [piece, htail, hfirst]
  · cases hfirst : isSecond lead second <;> cases hthird : isTail third <;>
      simp [piece, htail, hfirst, hthird]
  · rfl

theorem piece_length_le (lead : UInt8) (more : Bytes) :
    (piece lead more).2 ≤ more.length := by
  unfold piece
  rcases more with _ | ⟨second, _ | ⟨third, _ | ⟨fourth, more⟩⟩⟩ <;>
    simp only [List.length_cons, List.length_nil] <;> split_ifs <;> simp

theorem pieces_append_ascii (hb : b.toNat < 0x80) (bytes rest : Bytes) :
    pieces (bytes ++ b :: rest) = pieces bytes ++ pieces (b :: rest) := by
  fun_induction pieces bytes with
  | case1 => rfl
  | case2 lead more ih =>
      rw [List.cons_append, pieces_cons, piece_append_ascii hb,
        List.drop_append_of_le_length (piece_length_le lead more), ih, List.cons_append]

theorem decodeLossyChars_append_ascii (hb : b.toNat < 0x80) (bytes rest : Bytes) :
    decodeLossyChars (bytes ++ b :: rest) =
      decodeLossyChars bytes ++ Char.ofNat b.toNat :: decodeLossyChars rest := by
  have hpiece : piece b rest = (some (Char.ofNat b.toNat), 0) :=
    (Form.one hb).piece_eq rest
  rw [decodeLossyChars, pieces_append_ascii hb, pieces_cons, hpiece]
  simp [decodeLossyChars]

theorem mem_of_mem_decodeLossyChars (hb : b.toNat < 0x80) {bytes : Bytes}
    (hmem : Char.ofNat b.toNat ∈ decodeLossyChars bytes) : b ∈ bytes := by
  have hpiece : some (Char.ofNat b.toNat) ∈ pieces bytes := by
    obtain ⟨piece, hpiece, hshown⟩ := List.mem_map.mp hmem
    cases piece with
    | some c => rwa [← hshown]
    | none =>
        have hcode : (Char.ofNat b.toNat).toNat = b.toNat := by
          rw [Char.ofNat, dif_pos (Form.one hb).isValidChar]
          rfl
        rw [← hshown] at hcode
        exact absurd hcode (by simp [replacement]; omega)
  clear hmem
  fun_induction pieces bytes with
  | case1 => simp at hpiece
  | case2 lead more ih =>
      rcases List.mem_cons.mp hpiece with hfirst | hlater
      · obtain ⟨rest, behind, code, -, -, form, hcode⟩ :=
          form_of_piece (Prod.ext hfirst.symm rfl)
        have hbytes := form.encodeChar_eq
        rw [← hcode, (Form.one hb).encodeChar_eq] at hbytes
        cases hbytes
        exact List.mem_cons_self
      · exact List.mem_cons_of_mem lead (List.mem_of_mem_drop (ih hlater))

end Cut

theorem decodeLossyChars_encodeChars (cs : List Char) :
    decodeLossyChars (encodeChars cs) = cs := by
  rw [decodeLossyChars, pieces_encodeChars, List.map_map]
  exact List.map_id cs

theorem encodeChars_of_decodeLossyChars {bytes : Bytes} {cs : List Char}
    (hdecode : decodeLossyChars bytes = cs) (hclean : replacement ∉ cs) :
    encodeChars cs = bytes := by
  apply encodeChars_of_pieces
  rw [decodeLossyChars] at hdecode
  subst hdecode
  have hsame : (pieces bytes).map id =
      (pieces bytes).map (some ∘ fun piece => piece.getD replacement) := by
    apply List.map_congr_left
    intro piece hpiece
    cases piece with
    | some c => rfl
    | none =>
        have hshown : replacement ∈ (pieces bytes).map fun piece => piece.getD replacement :=
          List.mem_map.mpr ⟨none, hpiece, rfl⟩
        exact absurd hshown hclean
  rwa [List.map_id, ← List.map_map] at hsame

theorem decodeLossyChars_eq_iff {bytes : Bytes} {cs : List Char} (hclean : replacement ∉ cs) :
    decodeLossyChars bytes = cs ↔ bytes = encodeChars cs := by
  constructor
  · intro hdecode
    exact (encodeChars_of_decodeLossyChars hdecode hclean).symm
  · rintro rfl
    exact decodeLossyChars_encodeChars cs

end VmLifecycle.Utf8
