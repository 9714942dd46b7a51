import TacticalSymbols.Code.Reading

/-!
The shape of legal tokens. Every token that some field takes is as wide as its axis, is written in
capitals and is not filler alone; the first character of a token in the modifier slot tells which
axis it belongs to.
-/

namespace TacticalSymbols

/-! ### Capitals -/

namespace Text

theorem toUpper_toUpper (character : Char) :
    character.toUpper.toUpper = character.toUpper := by
  unfold Char.toUpper
  by_cases small : 'a'.val ≤ character.val ∧ character.val ≤ 'z'.val
  · rw [dif_pos small]
    apply dif_neg
    simp only [UInt32.le_iff_toNat_le, UInt32.toNat_add, UInt32.toNat_sub, Char.reduceVal,
      UInt32.reduceToNat] at small ⊢
    omega
  · rw [dif_neg small, dif_neg small]

theorem upper_eq_self (text : String)
    (capitals : ∀ character ∈ text.toList, character.toUpper = character) :
    upper text = text := by
  rw [← String.toList_inj, upper_toList, List.map_congr_left capitals, List.map_id']

theorem toUpper_of_mem_upper (text : String) (character : Char)
    (member : character ∈ (upper text).toList) : character.toUpper = character := by
  rw [upper_toList] at member
  obtain ⟨source, _listed, same⟩ := List.mem_map.mp member
  rw [← same, toUpper_toUpper]

theorem upper_upper (text : String) : upper (upper text) = upper text :=
  upper_eq_self (upper text) (toUpper_of_mem_upper text)

theorem sameLetters_upper (left right : String) :
    sameLetters left (upper right) = sameLetters left right := by
  rw [Bool.eq_iff_iff, sameLetters_iff, sameLetters_iff, upper_upper]

theorem utf8ByteSize_ofList (characters : List Char)
    (narrow : ∀ character ∈ characters, character.utf8Size = 1) :
    (String.ofList characters).utf8ByteSize = characters.length := by
  induction characters with
  | nil => rfl
  | cons first rest ih =>
      have restNarrow : ∀ character ∈ rest, character.utf8Size = 1 := fun character member =>
        narrow character (List.mem_cons_of_mem first member)
      have split : String.ofList (first :: rest) = String.singleton first ++ String.ofList rest := by
        rw [← String.toList_inj]
        simp
      rw [split, String.utf8ByteSize_append, String.utf8ByteSize_singleton, ih restNarrow,
        narrow first List.mem_cons_self, List.length_cons, Nat.add_comm]

end Text

namespace Scheme

theorem upper_token (scheme : Scheme) : Text.upper scheme.token = scheme.token := by
  cases scheme <;> decide

theorem ofToken?_token (scheme : Scheme) : ofToken? scheme.token = some scheme := by
  cases scheme <;> decide

theorem ofToken?_upper (text : String) : ofToken? (Text.upper text) = ofToken? text := by
  unfold ofToken?
  simp only [Text.sameLetters_upper]

theorem upper_of_ofToken? (text : String) (scheme : Scheme)
    (found : ofToken? text = some scheme) : Text.upper text = scheme.token := by
  have same := List.find?_some found
  rw [Text.sameLetters_iff, upper_token] at same
  exact same.symm

theorem ofToken?_eq_some_iff (text : String) (scheme : Scheme) :
    ofToken? text = some scheme ↔ Text.sameLetters scheme.token text = true := by
  rw [Text.sameLetters_iff, upper_token]
  constructor
  · intro found
    exact (upper_of_ofToken? text scheme found).symm
  · intro same
    rw [← ofToken?_upper, ← same]
    exact scheme.ofToken?_token

end Scheme

/-! ### Legal tokens -/

structure Axis.Fits (axis : Axis) (token : String) : Prop where
  width : token.length = axis.width
  capitals : Text.upper token = token
  notFiller : allFiller token.toList = false

instance (axis : Axis) (token : String) : Decidable (axis.Fits token) :=
  decidable_of_iff (token.length = axis.width ∧ Text.upper token = token ∧
      allFiller token.toList = false)
    ⟨fun ⟨width, capitals, notFiller⟩ => ⟨width, capitals, notFiller⟩,
      fun fits => ⟨fits.width, fits.capitals, fits.notFiller⟩⟩

private theorem listed_fits : ∀ scheme ∈ Scheme.all, ∀ axis ∈ Axis.all,
    ∀ token ∈ (legalTokens axis scheme).tokens, axis.Fits token := by
  decide +kernel

private theorem functionCharacter_plain (character : Char)
    (allowed : TokenSet.isFunctionCharacter character = true) :
    character.toUpper = character ∧ character.utf8Size = 1 := by
  have small : character.toNat < 97 := by
    rw [TokenSet.isFunctionCharacter, Bool.or_eq_true, Bool.or_eq_true] at allowed
    rcases allowed with (capital | digit) | dash
    · have bounds : 65 ≤ character.toNat ∧ character.toNat ≤ 90 := of_decide_eq_true capital
      omega
    · have bounds : (decide (48 ≤ character.toNat) && decide (character.toNat ≤ 57)) = true := digit
      have upper : character.toNat ≤ 57 := of_decide_eq_true (Bool.and_eq_true_iff.mp bounds).2
      omega
    · rw [eq_of_beq dash]
      decide
  constructor
  · unfold Char.toUpper
    apply dif_neg
    simp only [UInt32.le_iff_toNat_le, Char.reduceVal, UInt32.reduceToNat, Char.toNat_val]
    omega
  · rw [Char.utf8Size_eq_one_iff]
    simp only [UInt32.le_iff_toNat_le, UInt32.reduceToNat, Char.toNat_val]
    omega

/-- Function ids count bytes, but hold no character of more than one. -/
private theorem functionId_fits (token : String) (legal : TokenSet.isFunctionId token = true) :
    Axis.functionId.Fits token := by
  unfold TokenSet.isFunctionId at legal
  simp only [Bool.and_eq_true, beq_iff_eq, List.all_eq_true, List.any_eq_true, bne_iff_ne] at legal
  obtain ⟨⟨size, plain⟩, solid⟩ := legal
  constructor
  · have narrow := Text.utf8ByteSize_ofList token.toList
      (fun character member => (functionCharacter_plain character (plain character member)).2)
    rw [String.ofList_toList, size] at narrow
    exact narrow.symm
  · exact Text.upper_eq_self token
      (fun character member => (functionCharacter_plain character (plain character member)).1)
  · obtain ⟨character, member, notFiller⟩ := solid
    rw [allFiller, List.all_eq_false]
    exact ⟨character, member, by simpa using notFiller⟩

theorem mem_tokens_of_isLegal (axis : Axis) (token : String) (scheme : Scheme)
    (legal : isLegal axis token scheme = true) (closed : axis ≠ .functionId) :
    token ∈ (legalTokens axis scheme).tokens := by
  unfold isLegal at legal
  cases domain : legalTokens axis scheme with
  | listed tokens =>
      rw [domain] at legal
      exact List.contains_iff_mem.mp legal
  | functionIds =>
      cases axis <;> contradiction

theorem isLegal_of_mem_tokens (axis : Axis) (token : String) (scheme : Scheme)
    (listed : token ∈ (legalTokens axis scheme).tokens) : isLegal axis token scheme = true := by
  unfold isLegal
  cases domain : legalTokens axis scheme with
  | listed tokens =>
      rw [domain] at listed
      exact List.contains_iff_mem.mpr listed
  | functionIds =>
      rw [domain] at listed
      cases listed

theorem Axis.fits_of_isLegal (axis : Axis) (token : String) (scheme : Scheme)
    (legal : isLegal axis token scheme = true) : axis.Fits token := by
  by_cases isFunction : axis = .functionId
  · subst isFunction
    exact functionId_fits token legal
  · exact listed_fits scheme (Scheme.mem_all scheme) axis (Axis.mem_all axis) token
      (mem_tokens_of_isLegal axis token scheme legal isFunction)

/-! ### The modifier slot -/

private theorem listed_slotAxes : ∀ scheme ∈ Scheme.all, ∀ axis ∈ Axis.all,
    axis.start = Axis.unitEquipment.start → ∀ token ∈ (legalTokens axis scheme).tokens,
      axis ∈ CodeFields.slotAxes (token.toList.headD filler) := by
  decide +kernel

theorem Axis.mem_slotAxes_of_isLegal (axis : Axis) (token : String) (scheme : Scheme)
    (legal : isLegal axis token scheme = true) (starts : axis.start = Axis.unitEquipment.start) :
    axis ∈ CodeFields.slotAxes (token.toList.headD filler) := by
  have closed : axis ≠ .functionId := by
    intro isFunction
    subst isFunction
    contradiction
  exact listed_slotAxes scheme (Scheme.mem_all scheme) axis (Axis.mem_all axis) starts token
    (mem_tokens_of_isLegal axis token scheme legal closed)

end TacticalSymbols
