/-
# The name service inside its network

An address is read from just the text that it is written as, and a block from such a text with
the length of its network part behind a slash. What the name service gets for a block of service
addresses lies inside that block just when the block is a network, its address being zero beyond
the network part, that is large enough to have a tenth address. A block whose own address ends in
zero is taken in any case.
-/

import Mathlib.Algebra.Group.Nat.Defs
import PlatformApps.Network
import PlatformApps.Proofs.Text

namespace PlatformApps

namespace Ipv4

/-! ## Decimal numbers -/

/-- Are these the digits of a number, possibly with zeros in front? -/
def IsDecimal (value : Nat) (chars : List Char) : Prop :=
  ∃ zeros, chars = List.replicate zeros '0' ++ Nat.toDigits 10 value

theorem toDigits_of_isDigit {char : Char} (isDigit : char.isDigit = true) :
    Nat.toDigits 10 (char.toNat - 48) = [char] := by
  obtain ⟨least, greatest⟩ : 48 ≤ char.toNat ∧ char.toNat ≤ 57 :=
    Char.isDigit_iff_toNat.mp isDigit
  have below : char.toNat - 48 < 10 := by omega
  rw [Nat.toDigits_of_lt_base below, List.cons.injEq, ← Char.toNat_inj,
    Nat.toNat_digitChar_of_lt_ten below]
  exact ⟨by omega, rfl⟩

theorem toDigits_append {chars : List Char} (digits : ∀ char ∈ chars, char.isDigit = true)
    {front : Nat} (positive : 0 < front) :
    Nat.toDigits 10 front ++ chars = Nat.toDigits 10 (Nat.ofDigitChars 10 chars front) := by
  induction chars generalizing front with
  | nil => exact List.append_nil _
  | cons char rest ih =>
      obtain ⟨isDigit, others⟩ := List.forall_mem_cons.mp digits
      obtain ⟨least, greatest⟩ : 48 ≤ char.toNat ∧ char.toNat ≤ 57 :=
        Char.isDigit_iff_toNat.mp isDigit
      have below : char.toNat - 48 < 10 := by omega
      calc Nat.toDigits 10 front ++ char :: rest
          = (Nat.toDigits 10 front ++ Nat.toDigits 10 (char.toNat - 48)) ++ rest := by
            rw [toDigits_of_isDigit isDigit, List.append_assoc, List.singleton_append]
        _ = Nat.toDigits 10 (10 * front + (char.toNat - 48)) ++ rest := by
            rw [Nat.toDigits_append_toDigits (by decide) positive below]
        _ = Nat.toDigits 10 (Nat.ofDigitChars 10 (char :: rest) front) :=
            ih others (by omega)

theorem isDecimal_ofDigitChars {chars : List Char} (notEmpty : chars ≠ [])
    (digits : ∀ char ∈ chars, char.isDigit = true) :
    IsDecimal (Nat.ofDigitChars 10 chars 0) chars := by
  induction chars with
  | nil => exact absurd rfl notEmpty
  | cons char rest ih =>
      obtain ⟨isDigit, others⟩ := List.forall_mem_cons.mp digits
      by_cases zero : char = '0'
      · subst zero
        by_cases last : rest = []
        · subst last
          exact ⟨0, rfl⟩
        · obtain ⟨zeros, rest_eq⟩ := ih last others
          exact ⟨zeros + 1, congrArg ('0' :: ·) rest_eq⟩
      · obtain ⟨least, greatest⟩ : 48 ≤ char.toNat ∧ char.toNat ≤ 57 :=
          Char.isDigit_iff_toNat.mp isDigit
        have positive : 0 < char.toNat - 48 := by
          have different : char.toNat ≠ '0'.toNat := fun same => zero (Char.toNat_inj.mp same)
          have fortyEight : '0'.toNat = 48 := rfl
          omega
        refine ⟨0, ?_⟩
        have whole := toDigits_append others positive
        rw [toDigits_of_isDigit isDigit] at whole
        rw [Nat.ofDigitChars_cons, Nat.mul_zero, Nat.zero_add]
        exact whole

theorem IsDecimal.isDigit {value : Nat} {chars : List Char} (decimal : IsDecimal value chars) :
    ∀ char ∈ chars, char.isDigit = true := by
  obtain ⟨zeros, rfl⟩ := decimal
  intro char inside
  rcases List.mem_append.mp inside with zero | digit
  · rw [List.eq_of_mem_replicate zero]
    rfl
  · exact Nat.isDigit_of_mem_toDigits (by decide) (by decide) digit

theorem IsDecimal.ofDigitChars_eq {value : Nat} {chars : List Char}
    (decimal : IsDecimal value chars) : Nat.ofDigitChars 10 chars 0 = value := by
  obtain ⟨zeros, rfl⟩ := decimal
  rw [Nat.ofDigitChars_append, Nat.ofDigitChars_replicate_zero, Nat.mul_zero,
    Nat.ofDigitChars_toDigits (by decide) (by decide)]

theorem IsDecimal.ne_nil {value : Nat} {chars : List Char} (decimal : IsDecimal value chars) :
    chars ≠ [] := by
  obtain ⟨zeros, rfl⟩ := decimal
  exact fun none => Nat.toDigits_ne_nil (List.append_eq_nil_iff.mp none).2

theorem decimal?_eq_some_iff {value : Nat} {chars : List Char} :
    decimal? chars = some value ↔ IsDecimal value chars := by
  have value_eq : chars.foldl (fun value char => value * 10 + (char.toNat - 48)) 0 =
      Nat.ofDigitChars 10 chars 0 := by
    rw [Nat.ofDigitChars_eq_foldl]
    congr 1
    funext value char
    rw [Nat.mul_comm]
    rfl
  rw [decimal?, value_eq]
  constructor
  · intro read
    split at read
    · cases read
    · rename_i fits
      rw [Bool.or_eq_true, not_or, List.isEmpty_iff, Bool.not_eq_true', Bool.not_eq_false,
        List.all_eq_true] at fits
      obtain rfl := Option.some.inj read
      exact isDecimal_ofDigitChars fits.1 fits.2
  · intro decimal
    have fits : (chars.isEmpty || !chars.all Char.isDigit) = false := by
      rw [Bool.or_eq_false_iff, List.isEmpty_eq_false_iff, Bool.not_eq_false',
        List.all_eq_true]
      exact ⟨decimal.ne_nil, decimal.isDigit⟩
    rw [fits, decimal.ofDigitChars_eq]
    rfl

/-- A number is written without zeros in front unless it is zero. -/
theorem length_of_head_zero {value : Nat}
    (zero : (Nat.toDigits 10 value).head? = some '0') : (Nat.toDigits 10 value).length = 1 := by
  obtain ⟨rest, digits_eq⟩ := List.head?_eq_some_iff.mp zero
  by_cases last : rest = []
  · rw [digits_eq, last]
    rfl
  · have digits : ∀ char ∈ rest, char.isDigit = true := fun char inside =>
      Nat.isDigit_of_mem_toDigits (by decide) (by decide)
        (digits_eq ▸ List.mem_cons_of_mem _ inside)
    have same : Nat.ofDigitChars 10 rest 0 = value := by
      have whole := Nat.ofDigitChars_toDigits (b := 10) (n := value) (by decide) (by decide)
      rw [digits_eq] at whole
      exact whole
    obtain ⟨zeros, rest_eq⟩ := isDecimal_ofDigitChars last digits
    rw [same, digits_eq] at rest_eq
    have lengths := congrArg List.length rest_eq
    rw [List.length_append, List.length_cons] at lengths
    omega

/-! ## Addresses -/

theorem octet?_eq_some_iff {octet : UInt8} {chars : List Char} :
    octet? chars = some octet ↔ chars = Nat.toDigits 10 octet.toNat := by
  rw [octet?]
  constructor
  · intro read
    split at read
    · cases read
    · rename_i fits
      obtain ⟨value, kept, rfl⟩ := Option.map_eq_some_iff.mp read
      obtain ⟨decimal, small⟩ := Option.filter_eq_some_iff.mp kept
      obtain ⟨zeros, chars_eq⟩ := decimal?_eq_some_iff.mp decimal
      rw [UInt8.toNat_ofNat_of_lt' (Nat.lt_succ_of_le (of_decide_eq_true small))]
      cases zeros with
      | zero => exact chars_eq
      | succ zeros =>
          have longer : 0 < (Nat.toDigits 10 value).length := Nat.length_toDigits_pos
          refine absurd ?_ fits
          simp [chars_eq, List.replicate_succ]
          omega
  · rintro rfl
    have bound : octet.toNat < 10 ^ 3 := Nat.lt_trans octet.toNat_lt (by decide)
    have short : (Nat.toDigits 10 octet.toNat).length ≤ 3 :=
      (Nat.length_toDigits_le_iff (by decide) (by decide)).mpr bound
    have fits : ((Nat.toDigits 10 octet.toNat).head? == some '0' &&
          decide ((Nat.toDigits 10 octet.toNat).length > 1) ||
        decide ((Nat.toDigits 10 octet.toNat).length > 3)) = false := by
      rw [Bool.eq_false_iff, Ne, Bool.or_eq_true, Bool.and_eq_true, beq_iff_eq,
        decide_eq_true_iff, decide_eq_true_iff]
      rintro (⟨padded, longer⟩ | long)
      · rw [length_of_head_zero padded] at longer
        exact absurd longer (by decide)
      · omega
    have decimal : decimal? (Nat.toDigits 10 octet.toNat) = some octet.toNat :=
      decimal?_eq_some_iff.mpr ⟨0, rfl⟩
    have small : octet.toNat ≤ 255 := Nat.le_of_lt_succ octet.toNat_lt
    simp only [fits, decimal, Option.filter_some, small, decide_true, if_true]
    exact congrArg some (UInt8.ofNat_toNat)

theorem mapM_octet?_eq_some_iff {pieces : List (List Char)} {octets : List UInt8} :
    pieces.mapM octet? = some octets ↔
      pieces = octets.map fun octet => Nat.toDigits 10 octet.toNat := by
  have reads {chars : List Char} {octet : UInt8} : octet? chars = some octet ↔
      chars = Nat.toDigits 10 octet.toNat ∧ True := by
    rw [octet?_eq_some_iff, and_true]
  rw [Text.mapM_eq_some_iff reads]
  exact and_iff_left fun _ _ => trivial

theorem parts_eq_splitOn (separator : Char) (chars : List Char) :
    parts separator chars = chars.splitOn separator := by
  induction chars with
  | nil => rfl
  | cons char rest ih =>
      rw [List.splitOn_cons_eq_if_modifyHead, ← ih, parts]
      obtain ⟨part, others, divided⟩ :=
        List.exists_cons_of_ne_nil (List.splitOn_ne_nil separator rest)
      simp only [ih, divided, beq_iff_eq, List.modifyHead_cons]

theorem toList_render (address : Ipv4) :
    address.render.toList =
      Nat.toDigits 10 address.first.toNat ++ '.' :: (Nat.toDigits 10 address.second.toNat ++
        '.' :: (Nat.toDigits 10 address.third.toNat ++
          '.' :: Nat.toDigits 10 address.fourth.toNat)) := by
  simp [render, toString, Nat.repr_eq_ofList_toDigits]

theorem notMem_toDigits {char : Char} (noDigit : char.isDigit = false) (value : Nat) :
    char ∉ Nat.toDigits 10 value := fun inside => by
  have isDigit := Nat.isDigit_of_mem_toDigits (by decide) (by decide) inside
  exact Bool.noConfusion (isDigit.symm.trans noDigit)

/-- An address is read from the text that it is written as, and from no other. -/
theorem parse?_eq_some_iff {chars : List Char} {address : Ipv4} :
    parse? chars = some address ↔ chars = address.render.toList := by
  rw [toList_render]
  have point : ∀ value, '.' ∉ Nat.toDigits 10 value := notMem_toDigits rfl
  constructor
  · intro read
    rw [parse?] at read
    split at read
    · rename_i a b c d octets
      cases read
      rw [parts_eq_splitOn, mapM_octet?_eq_some_iff] at octets
      have joined : ['.'].intercalate (chars.splitOn '.') = chars := List.intercalate_splitOn '.'
      rw [← joined, octets]
      simp [List.intercalate_cons_cons]
    · cases read
  · rintro rfl
    have octets : (parts '.' (Nat.toDigits 10 address.first.toNat ++
        '.' :: (Nat.toDigits 10 address.second.toNat ++ '.' ::
          (Nat.toDigits 10 address.third.toNat ++
            '.' :: Nat.toDigits 10 address.fourth.toNat)))).mapM octet? =
        some [address.first, address.second, address.third, address.fourth] := by
      rw [mapM_octet?_eq_some_iff, parts_eq_splitOn,
        List.splitOn_append_cons_self_of_not_mem (point _),
        List.splitOn_append_cons_self_of_not_mem (point _),
        List.splitOn_append_cons_self_of_not_mem (point _), List.splitOn_eq_singleton (point _)]
      rfl
    rw [parse?, octets]

theorem render_injective {first second : Ipv4} (same : first.render = second.render) :
    first = second := by
  have read := parse?_eq_some_iff.mpr (congrArg String.toList same)
  exact (Option.some.inj (read.symm.trans (parse?_eq_some_iff.mpr rfl))).symm

end Ipv4

namespace Ipv4Block

/-! ## Blocks -/

/-- A block as it may be written: its address, a slash, and the length of its network part, in
front of which a plus sign and zeros are allowed. -/
def IsWritten (block : Ipv4Block) (text : String) : Prop :=
  block.length ≤ 32 ∧ ∃ sign digits, (sign = [] ∨ sign = ['+']) ∧
    Ipv4.IsDecimal block.length digits ∧
      text.toList = block.address.render.toList ++ '/' :: (sign ++ digits)

/-- Are all bits of the block's address beyond the network part zero? -/
def IsAligned (block : Ipv4Block) : Prop :=
  ∀ bit < 32 - block.length, block.address.toNat.testBit bit = false

/-- Does an address have the network part of the block? -/
def Contains (block : Ipv4Block) (address : Ipv4) : Prop :=
  address.toNat >>> (32 - block.length) = block.address.toNat >>> (32 - block.length)

instance (block : Ipv4Block) : Decidable block.IsAligned :=
  inferInstanceAs (Decidable (∀ bit < 32 - block.length, _ = false))

instance (block : Ipv4Block) (address : Ipv4) : Decidable (block.Contains address) :=
  inferInstanceAs (Decidable (_ = _))

theorem length?_eq_some_iff {length : Nat} {chars : List Char} :
    length? chars = some length ↔ length ≤ 32 ∧ ∃ sign digits, (sign = [] ∨ sign = ['+']) ∧
      Ipv4.IsDecimal length digits ∧ chars = sign ++ digits := by
  have kept (digits : List Char) : (Ipv4.decimal? digits).filter (fun value => value ≤ 32) =
      some length ↔ length ≤ 32 ∧ Ipv4.IsDecimal length digits := by
    rw [Option.filter_eq_some_iff, Ipv4.decimal?_eq_some_iff, decide_eq_true_iff, and_comm]
  unfold length?
  constructor
  · intro read
    split at read
    · rename_i rest
      obtain ⟨bound, decimal⟩ := (kept rest).mp read
      exact ⟨bound, ['+'], rest, .inr rfl, decimal, rfl⟩
    · obtain ⟨bound, decimal⟩ := (kept chars).mp read
      exact ⟨bound, [], chars, .inl rfl, decimal, rfl⟩
  · rintro ⟨bound, sign, digits, rfl | rfl, decimal, rfl⟩
    · split
      · cases decimal.isDigit '+' List.mem_cons_self
      · exact (kept _).mpr ⟨bound, decimal⟩
    · exact (kept digits).mpr ⟨bound, decimal⟩

theorem slash_notMem_render (address : Ipv4) : '/' ∉ address.render.toList := by
  have apart : ∀ value, '/' ∉ Nat.toDigits 10 value := Ipv4.notMem_toDigits rfl
  have notPoint : '/' ≠ '.' := by decide
  simp only [Ipv4.toList_render, List.mem_append, List.mem_cons, apart, notPoint, or_false,
    not_false_eq_true]

/-- A block is read from the texts that it may be written as, and from no other. -/
theorem parse?_eq_some_iff {text : String} {block : Ipv4Block} :
    parse? text = some block ↔ block.IsWritten (Text.trim text) := by
  rw [parse?, IsWritten]
  simp only [Option.bind_eq_bind, Option.bind_eq_some_iff, Option.pure_def, Option.some.injEq]
  constructor
  · rintro ⟨⟨before, behind⟩, cut, length, measured, address, placed, rfl⟩
    obtain ⟨bound, sign, digits, signed, decimal, behind_eq⟩ := length?_eq_some_iff.mp measured
    refine ⟨bound, sign, digits, signed, decimal, ?_⟩
    have before_eq : before = address.render.toList := Ipv4.parse?_eq_some_iff.mp placed
    obtain rfl : behind = sign ++ digits := behind_eq
    rw [(Text.cutAt?_eq_some_iff.mp cut).1, before_eq]
  · rintro ⟨bound, sign, digits, signed, decimal, joined⟩
    have cut := Text.cutAt?_eq_some_iff.mpr ⟨joined, slash_notMem_render _⟩
    have measured := length?_eq_some_iff.mpr ⟨bound, sign, digits, signed, decimal, rfl⟩
    have placed : Ipv4.parse? block.address.render.toList = some block.address :=
      Ipv4.parse?_eq_some_iff.mpr rfl
    refine ⟨_, cut, ?_⟩
    dsimp only
    exact ⟨_, measured, _, placed, rfl⟩

/-- A text is written for one block at most. -/
theorem IsWritten.unique {text : String} {block other : Ipv4Block}
    (written : block.IsWritten (Text.trim text)) (alsoWritten : other.IsWritten (Text.trim text)) :
    other = block :=
  Option.some.inj ((parse?_eq_some_iff.mpr alsoWritten).symm.trans (parse?_eq_some_iff.mpr written))

theorem isAligned_iff {block : Ipv4Block} :
    block.IsAligned ↔ block.address.toNat % 2 ^ (32 - block.length) = 0 := by
  constructor
  · intro aligned
    refine Nat.eq_of_testBit_eq fun bit => ?_
    rw [Nat.testBit_mod_two_pow, Nat.zero_testBit, Bool.and_eq_false_iff, decide_eq_false_iff_not]
    exact Decidable.or_iff_not_imp_left.mpr fun inside => aligned bit (Decidable.not_not.mp inside)
  · intro aligned bit inside
    have zero := congrArg (Nat.testBit · bit) aligned
    simpa [Nat.testBit_mod_two_pow, inside] using zero

/-- The address that the name service gets: the block's own with another last number. -/
def nameService (block : Ipv4Block) : Ipv4 := { block.address with fourth := nameServiceOctet }

theorem toNat_nameService {block : Ipv4Block} (ends : block.address.fourth = 0) :
    block.nameService.toNat = block.address.toNat + 10 := by
  have zero : (0 : UInt8).toNat = 0 := rfl
  have ten : nameServiceOctet.toNat = 10 := rfl
  simp only [nameService, Ipv4.toNat, ends, zero, ten, Nat.add_zero]

theorem ten_lt_two_pow_iff {exponent : Nat} : 10 < 2 ^ exponent ↔ 4 ≤ exponent := by
  constructor
  · intro large
    refine Nat.le_of_not_lt fun small => ?_
    have bound : 2 ^ exponent ≤ 2 ^ 3 := Nat.pow_le_pow_right (by decide) (Nat.le_of_lt_succ small)
    omega
  · intro atLeast
    have bound : 2 ^ 4 ≤ 2 ^ exponent := Nat.pow_le_pow_right (by decide) atLeast
    omega

/-- In a network, the tenth address is one of the network just when the network part leaves four
bits. -/
theorem contains_nameService_iff {block : Ipv4Block} (bound : block.length ≤ 32)
    (aligned : block.IsAligned) (ends : block.address.fourth = 0) :
    block.Contains block.nameService ↔ block.length ≤ 28 := by
  have positive : 0 < 2 ^ (32 - block.length) := Nat.two_pow_pos _
  obtain ⟨network, multiple⟩ := Nat.dvd_of_mod_eq_zero (isAligned_iff.mp aligned)
  rw [Contains, toNat_nameService ends, Nat.shiftRight_eq_div_pow, Nat.shiftRight_eq_div_pow,
    multiple, Nat.mul_add_div positive, Nat.mul_div_cancel_left _ positive]
  have small : 10 / 2 ^ (32 - block.length) = 0 ↔ 10 < 2 ^ (32 - block.length) :=
    Nat.div_eq_zero_iff_lt positive
  have wide : 10 < 2 ^ (32 - block.length) ↔ 4 ≤ 32 - block.length := ten_lt_two_pow_iff
  omega

end Ipv4Block

/-! ## The name service -/

namespace NameService

open Ipv4Block

variable {text : String} {block : Ipv4Block}

/-- An address for the name service as it should be: it ends in ten and is inside the block that
a text is written for, and that block is a network. -/
def LiesInside (text ip : String) : Prop :=
  ∃ (block : Ipv4Block) (address : Ipv4), block.IsWritten (Text.trim text) ∧ block.IsAligned ∧
    block.Contains address ∧ address.fourth = 10 ∧ ip = address.render

/-- Does a text give the name service an address inside its network, or else a complaint? -/
def ServesInside (text : String) : Prop :=
  (∃ ip, nameServiceAddress text = .ok ip ∧ LiesInside text ip) ∨
    ∃ invalid, nameServiceAddress text = .error (.validation invalid)

theorem nameServiceAddress_of_written (written : block.IsWritten (Text.trim text)) :
    nameServiceAddress text =
      if block.address.fourth = 0 then .ok block.nameService.render
      else .error (.validation (.unalignedServiceCidr text)) := by
  rw [nameServiceAddress, parse?_eq_some_iff.mpr written]
  rfl

theorem nameServiceAddress_of_malformed
    (malformed : ∀ block : Ipv4Block, ¬ block.IsWritten (Text.trim text)) :
    nameServiceAddress text = .error (.validation (.malformedServiceCidr text)) := by
  have none : parse? text = none := Option.eq_none_iff_forall_ne_some.mpr fun block read =>
    malformed block (parse?_eq_some_iff.mp read)
  rw [nameServiceAddress, none]

theorem nameServiceAddress_eq_ok_iff {ip : String} :
    nameServiceAddress text = .ok ip ↔ ∃ block : Ipv4Block, block.IsWritten (Text.trim text) ∧
      block.address.fourth = 0 ∧ ip = block.nameService.render := by
  constructor
  · intro answered
    by_cases holds : ∃ block : Ipv4Block, block.IsWritten (Text.trim text)
    · obtain ⟨block, written⟩ := holds
      rw [nameServiceAddress_of_written written] at answered
      split at answered
      · rename_i ends
        exact ⟨block, written, ends, (Except.ok.inj answered).symm⟩
      · cases answered
    · cases (nameServiceAddress_of_malformed (not_exists.mp holds)).symm.trans answered
  · rintro ⟨block, written, ends, rfl⟩
    rw [nameServiceAddress_of_written written, if_pos ends]

theorem liesInside_iff (written : block.IsWritten (Text.trim text))
    (ends : block.address.fourth = 0) :
    LiesInside text block.nameService.render ↔ block.IsAligned ∧ block.length ≤ 28 := by
  constructor
  · rintro ⟨other, address, alsoWritten, aligned, contains, -, same⟩
    obtain rfl := written.unique alsoWritten
    obtain rfl := Ipv4.render_injective same
    exact ⟨aligned, (contains_nameService_iff written.1 aligned ends).mp contains⟩
  · rintro ⟨aligned, wide⟩
    exact ⟨block, block.nameService, written, aligned,
      (contains_nameService_iff written.1 aligned ends).mpr wide, rfl, rfl⟩

/-- All depends on the blocks whose address ends in zero, since no others are answered. -/
theorem servesInside_iff :
    ServesInside text ↔ ∀ block : Ipv4Block, block.IsWritten (Text.trim text) →
      block.address.fourth = 0 → block.IsAligned ∧ block.length ≤ 28 := by
  constructor
  · intro serves block written ends
    have answered := nameServiceAddress_of_written written
    rw [if_pos ends] at answered
    rcases serves with ⟨ip, alsoAnswered, inside⟩ | ⟨invalid, refused⟩
    · obtain rfl := Except.ok.inj (answered.symm.trans alsoAnswered)
      exact (liesInside_iff written ends).mp inside
    · cases answered.symm.trans refused
  · intro fits
    by_cases holds : ∃ block : Ipv4Block, block.IsWritten (Text.trim text)
    · obtain ⟨block, written⟩ := holds
      have answered := nameServiceAddress_of_written written
      by_cases ends : block.address.fourth = 0
      · rw [if_pos ends] at answered
        exact .inl ⟨_, answered, (liesInside_iff written ends).mpr (fits block written ends)⟩
      · rw [if_neg ends] at answered
        exact .inr ⟨_, answered⟩
    · exact .inr ⟨_, nameServiceAddress_of_malformed (not_exists.mp holds)⟩

/-- What a text gives the name service lies inside its network, unless it is a block whose
address ends in zero and which is not a network, or one that leaves less than four bits. Any block
whose address ends in zero is answered with that address and ten for its last number; everything
else is complained about. -/
theorem serves_inside_iff_wide_network (text : String) :
    (ServesInside text ↔ ∀ block : Ipv4Block, block.IsWritten (Text.trim text) →
      block.address.fourth = 0 → block.IsAligned ∧ block.length ≤ 28) ∧
    (∀ ip, nameServiceAddress text = .ok ip ↔ ∃ block : Ipv4Block,
      block.IsWritten (Text.trim text) ∧ block.address.fourth = 0 ∧
        ip = ({ block.address with fourth := 10 } : Ipv4).render) ∧
    (∀ block : Ipv4Block, block.IsWritten (Text.trim text) → block.address.fourth ≠ 0 →
      nameServiceAddress text = .error (.validation (.unalignedServiceCidr text))) ∧
    ((∀ block : Ipv4Block, ¬ block.IsWritten (Text.trim text)) →
      nameServiceAddress text = .error (.validation (.malformedServiceCidr text))) := by
  refine ⟨servesInside_iff, fun ip => nameServiceAddress_eq_ok_iff, fun block written ends => ?_,
    nameServiceAddress_of_malformed⟩
  rw [nameServiceAddress_of_written written, if_neg ends]

/-- A block that is no network is answered, and one that has no tenth address is answered with an
address outside of it. -/
theorem unaligned_block_answered :
    nameServiceAddress "172.16.5.0/16" = .ok "172.16.5.10" ∧ ¬ ServesInside "172.16.5.0/16" ∧
      nameServiceAddress "10.0.0.0/29" = .ok "10.0.0.10" ∧ ¬ ServesInside "10.0.0.0/29" := by
  have unaligned : (⟨⟨172, 16, 5, 0⟩, 16⟩ : Ipv4Block).IsWritten (Text.trim "172.16.5.0/16") :=
    parse?_eq_some_iff.mp (by decide +kernel)
  have narrow : (⟨⟨10, 0, 0, 0⟩, 29⟩ : Ipv4Block).IsWritten (Text.trim "10.0.0.0/29") :=
    parse?_eq_some_iff.mp (by decide +kernel)
  have outside : ¬ ServesInside "172.16.5.0/16" := fun serves =>
    absurd (servesInside_iff.mp serves _ unaligned rfl).1 (by decide +kernel)
  have beyond : ¬ ServesInside "10.0.0.0/29" := fun serves =>
    absurd (servesInside_iff.mp serves _ narrow rfl).2 (by decide)
  exact ⟨nameServiceAddress_eq_ok_iff.mpr ⟨_, unaligned, rfl, by decide +kernel⟩, outside,
    nameServiceAddress_eq_ok_iff.mpr ⟨_, narrow, rfl, by decide +kernel⟩, beyond⟩

end NameService

end PlatformApps
