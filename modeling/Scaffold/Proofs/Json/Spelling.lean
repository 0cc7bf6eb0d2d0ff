import Scaffold.Json.Printer
import Scaffold.Json.Reader
import Scaffold.Proofs.Text.Digits
import Scaffold.Proofs.Traversal

/-!
# Reading what spells a document

A text spells a document when it writes its parts one after the other, with
blanks where they are allowed. The reader reads every text that spells a document
as that document; the compact form is one of them and the pretty form another.
-/

namespace Scaffold.Json

open Text

/-! ## Blanks -/

def Blank (cs : List Char) : Prop := ∀ c ∈ cs, isJsonBlank c = true

theorem blank_nil : Blank [] := List.forall_mem_nil _

theorem skipBlanks_append {before : List Char} (h : Blank before) (cs : List Char) :
    skipBlanks (before ++ cs) = skipBlanks cs := by
  unfold skipBlanks
  exact List.dropWhile_append_of_pos h

theorem skipBlanks_cons {c : Char} (h : isJsonBlank c = false) (cs : List Char) :
    skipBlanks (c :: cs) = c :: cs := by
  unfold skipBlanks
  rw [List.dropWhile_cons_of_neg (by simp [h])]

theorem skipBlanks_pad {before : List Char} (hbefore : Blank before) {c : Char}
    (h : isJsonBlank c = false) (cs : List Char) : skipBlanks (before ++ c :: cs) = c :: cs := by
  rw [skipBlanks_append hbefore, skipBlanks_cons h]

theorem isEmpty_skipBlanks {cs : List Char} (h : Blank cs) : (skipBlanks cs).isEmpty = true := by
  have hskip := skipBlanks_append h []
  rw [List.append_nil] at hskip
  rw [hskip]
  rfl

/-! ## Strings -/

/-- The characters of a text between quotes. -/
def quotedChars (s : String) : List Char := '"' :: (s.toList.flatMap escapeChar ++ ['"'])

theorem toList_quote (s : String) : (quote s).toList = quotedChars s := by
  unfold quote quotedChars
  simp

theorem hex4?_of_control : ∀ n < 0x20, ∀ rest,
    hex4? ('0' :: '0' :: (hex2 n ++ rest)) = some (n, rest) := by
  have hdigits : ∀ n < 0x20, hexDigit? (hexDigits.getD (n / 16) '0') = some (n / 16) ∧
      hexDigit? (hexDigits.getD (n % 16) '0') = some (n % 16) := by decide
  have hzero : hexDigit? '0' = some 0 := by decide
  intro n hn rest
  obtain ⟨hhigh, hlow⟩ := hdigits n hn
  unfold hex2 hex4?
  simp only [List.cons_append, List.nil_append, hzero, hhigh, hlow]
  have hsum : ((0 * 16 + 0) * 16 + n / 16) * 16 + n % 16 = n := by omega
  exact congrArg (fun m => some (m, rest)) hsum

theorem readUnits_short {c e : Char} (hc : c ≠ 'u') (h : escaped? c = some e) (fuel : Nat)
    (done : List Unit16) (rest : List Char) :
    readUnits (fuel + 1) done ('\\' :: c :: rest) = readUnits fuel (some e :: done) rest := by
  rw [readUnits]
  · rw [h]
  · exact hc

theorem readUnits_plain {c : Char} (hquote : c ≠ '"') (hslash : c ≠ '\\') (hc : 0x20 ≤ c.toNat)
    (fuel : Nat) (done : List Unit16) (rest : List Char) :
    readUnits (fuel + 1) done (c :: rest) = readUnits fuel (some c :: done) rest := by
  rw [readUnits]
  · rw [if_neg]
    simp only [Bool.or_eq_true, decide_eq_true_eq, not_or]
    exact ⟨hslash, by omega⟩
  all_goals
    intros
    first | exact hquote ‹_› | exact hslash ‹_›

theorem readUnits_control {c : Char} (hc : c.toNat < 0x20) (fuel : Nat) (done : List Unit16)
    (rest : List Char) :
    readUnits (fuel + 1) done ('\\' :: 'u' :: '0' :: '0' :: (hex2 c.toNat ++ rest)) =
      readUnits fuel (some c :: done) rest := by
  rw [readUnits, hex4?_of_control _ hc]
  dsimp only
  rw [if_neg (by simp; omega), if_neg (by simp; omega), Char.ofNat_toNat]

/-- A character comes back from its escape. -/
theorem readUnits_escapeChar (fuel : Nat) (done : List Unit16) (c : Char) (rest : List Char) :
    readUnits (fuel + 1) done (escapeChar c ++ rest) = readUnits fuel (some c :: done) rest := by
  have hcode : ∀ n, c.toNat = n → c = Char.ofNat n := fun n h => by rw [← h, Char.ofNat_toNat]
  unfold escapeChar
  split
  · next h =>
    subst h
    exact readUnits_short (by decide) rfl fuel done rest
  split
  · next h =>
    subst h
    exact readUnits_short (by decide) rfl fuel done rest
  split
  · next h =>
    rw [hcode 8 h]
    exact readUnits_short (by decide) rfl fuel done rest
  split
  · next h =>
    rw [hcode 12 h]
    exact readUnits_short (by decide) rfl fuel done rest
  split
  · next h =>
    subst h
    exact readUnits_short (by decide) rfl fuel done rest
  split
  · next h =>
    subst h
    exact readUnits_short (by decide) rfl fuel done rest
  split
  · next h =>
    subst h
    exact readUnits_short (by decide) rfl fuel done rest
  split
  · next h => exact readUnits_control h fuel done rest
  · next hquote hslash _ _ _ _ _ h =>
    exact readUnits_plain hquote hslash (by omega) fuel done rest

theorem readUnits_quoted (cs : List Char) : ∀ (fuel : Nat) (done : List Unit16) (rest : List Char),
    cs.length < fuel → readUnits fuel done (cs.flatMap escapeChar ++ '"' :: rest) =
      some (done.reverse ++ cs.map some, rest) := by
  induction cs with
  | nil =>
      intro fuel done rest hfuel
      obtain ⟨fuel, rfl⟩ := Nat.exists_eq_add_one.mpr hfuel
      simp [readUnits]
  | cons c cs ih =>
      intro fuel done rest hfuel
      obtain ⟨fuel, rfl⟩ := Nat.exists_eq_add_one.mpr (Nat.lt_of_le_of_lt (Nat.zero_le _) hfuel)
      rw [List.flatMap_cons, List.append_assoc, readUnits_escapeChar,
        ih fuel _ rest (Nat.lt_of_succ_lt_succ hfuel)]
      simp

theorem length_le_escaped (cs : List Char) : cs.length ≤ (cs.flatMap escapeChar).length := by
  induction cs with
  | nil => exact Nat.le_refl _
  | cons c cs ih =>
      have hne : 0 < (escapeChar c).length := by
        unfold escapeChar
        repeat' split
        all_goals simp
      rw [List.flatMap_cons, List.length_append, List.length_cons]
      omega

/-- A text between quotes is read as that text. -/
theorem readString_quoted (s : String) (rest : List Char) :
    readString (s.toList.flatMap escapeChar ++ '"' :: rest) = some (some s, rest) := by
  have hfuel := length_le_escaped s.toList
  unfold readString
  rw [readUnits_quoted _ _ _ _ (by rw [List.length_append]; omega), Option.map_some,
    List.reverse_nil, List.nil_append]
  have hunits : (s.toList.map some).mapM (id : Unit16 → Option Char) = some s.toList := by
    apply mapM_map_eq_some
    intro c
    rfl
  dsimp only
  rw [hunits, Option.map_some, String.ofList_toList]

/-! ## Numbers -/

/-- Digits, at least one. -/
def Digits (cs : List Char) : Prop := cs ≠ [] ∧ ∀ c ∈ cs, isAsciiDigit c = true

/-- The whole part of a number: zero, or digits of which the first is not zero. -/
inductive WholePart : List Char → Prop
  | zero : WholePart ['0']
  | digits {c : Char} {cs : List Char} (h : Digits (c :: cs)) (hc : c ≠ '0') : WholePart (c :: cs)

inductive FractionPart : List Char → Prop
  | none : FractionPart []
  | digits {cs : List Char} (h : Digits cs) : FractionPart ('.' :: cs)

inductive ExponentPart : List Char → Prop
  | none : ExponentPart []
  | digits {e : Char} {sign cs : List Char} (he : e = 'e' ∨ e = 'E')
      (hsign : sign = [] ∨ sign = ['+'] ∨ sign = ['-']) (h : Digits cs) :
      ExponentPart (e :: (sign ++ cs))

/-- A number as the standard writes it. -/
inductive Numeral : List Char → Prop
  | mk {sign whole fraction exponent : List Char} (hsign : sign = [] ∨ sign = ['-'])
      (hwhole : WholePart whole) (hfraction : FractionPart fraction)
      (hexponent : ExponentPart exponent) : Numeral (sign ++ whole ++ fraction ++ exponent)

/-- What can stand behind a number: nothing that would go on with it. -/
def Ends (rest : List Char) : Prop :=
  ∀ c ∈ rest.head?, isAsciiDigit c = false ∧ c ≠ '.' ∧ c ≠ 'e' ∧ c ≠ 'E'

theorem takeDigits_append {cs rest : List Char} (h : ∀ c ∈ cs, isAsciiDigit c = true)
    (hrest : ∀ c ∈ rest.head?, isAsciiDigit c = false) : takeDigits (cs ++ rest) = (cs, rest) := by
  have hdrop : rest.takeWhile isAsciiDigit = [] ∧ rest.dropWhile isAsciiDigit = rest := by
    cases rest with
    | nil => exact ⟨rfl, rfl⟩
    | cons c rest =>
        have hc := hrest c rfl
        exact ⟨List.takeWhile_cons_of_neg (by simp [hc]), List.dropWhile_cons_of_neg (by simp [hc])⟩
  unfold takeDigits
  rw [List.takeWhile_append_of_pos h, List.dropWhile_append_of_pos h, hdrop.1, hdrop.2,
    List.append_nil]

theorem readIntegerPart_append {cs rest : List Char} (h : WholePart cs)
    (hrest : ∀ c ∈ rest.head?, isAsciiDigit c = false) :
    readIntegerPart (cs ++ rest) = some (cs, rest) := by
  cases h with
  | zero =>
      cases rest with
      | nil => rfl
      | cons c rest =>
          have hc := hrest c rfl
          change readIntegerPart ('0' :: c :: rest) = _
          rw [readIntegerPart, hc]
          rfl
  | @digits c cs h hc =>
      have htake := takeDigits_append h.2 hrest
      rw [List.cons_append] at htake ⊢
      rw [readIntegerPart, htake]
      intro rest' heq
      exact hc (List.cons.inj heq).1

theorem readFraction_append {cs rest : List Char} (h : FractionPart cs)
    (hrest : ∀ c ∈ rest.head?, isAsciiDigit c = false ∧ c ≠ '.') :
    readFraction (cs ++ rest) = some (cs, rest) := by
  cases h with
  | none =>
      rw [List.nil_append]
      cases rest with
      | nil => rfl
      | cons c rest =>
          rw [readFraction]
          intro rest' heq
          exact (hrest c rfl).2 (List.cons.inj heq).1
  | @digits cs h =>
      rw [List.cons_append, readFraction, takeDigits_append h.2 fun c hc => (hrest c hc).1]
      obtain ⟨c, cs, rfl⟩ := List.exists_cons_of_ne_nil h.1
      rfl

theorem ne_sign_of_isAsciiDigit {c : Char} (h : isAsciiDigit c = true) : c ≠ '+' ∧ c ≠ '-' := by
  constructor
  · rintro rfl
    exact absurd h (by decide)
  · rintro rfl
    exact absurd h (by decide)

theorem readExponent_append {cs rest : List Char} (h : ExponentPart cs) (hrest : Ends rest) :
    readExponent (cs ++ rest) = some (cs, rest) := by
  cases h with
  | none =>
      cases rest with
      | nil => rfl
      | cons c rest =>
          obtain ⟨-, -, he, hE⟩ := hrest c rfl
          unfold readExponent
          dsimp only [List.nil_append]
          rw [if_neg (by simp [he, hE])]
  | @digits e sign cs he hsign h =>
      have htake := takeDigits_append h.2 fun c hc => (hrest c hc).1
      obtain ⟨c, cs, rfl⟩ := List.exists_cons_of_ne_nil h.1
      obtain ⟨hplus, hminus⟩ := ne_sign_of_isAsciiDigit (h.2 c List.mem_cons_self)
      have hexponent : (decide (e = 'e') || decide (e = 'E')) = true := by simpa using he
      rcases hsign with rfl | rfl | rfl
      · change readExponent (e :: (c :: cs ++ rest)) = _
        rw [readExponent, if_pos hexponent, htake]
        · rfl
        · intro rest' heq
          exact hplus (List.cons.inj heq).1
        · intro rest' heq
          exact hminus (List.cons.inj heq).1
      · change readExponent (e :: '+' :: (c :: cs ++ rest)) = _
        simp only [readExponent]
        rw [if_pos hexponent, htake]
        rfl
      · change readExponent (e :: '-' :: (c :: cs ++ rest)) = _
        simp only [readExponent]
        rw [if_pos hexponent, htake]
        rfl

/-- What stands behind the whole part of a number, and behind its fraction, does
not go on with these. -/
theorem ends_parts {fraction exponent rest : List Char} (hfraction : FractionPart fraction)
    (hexponent : ExponentPart exponent) (hrest : Ends rest) :
    (∀ c ∈ (exponent ++ rest).head?, isAsciiDigit c = false ∧ c ≠ '.') ∧
      ∀ c ∈ (fraction ++ (exponent ++ rest)).head?, isAsciiDigit c = false := by
  have hafter : ∀ c ∈ (exponent ++ rest).head?, isAsciiDigit c = false ∧ c ≠ '.' := by
    cases hexponent with
    | none =>
        intro c hc
        obtain ⟨hdigit, hpoint, -⟩ := hrest c hc
        exact ⟨hdigit, hpoint⟩
    | @digits e sign cs he hsign h =>
        intro c hc
        obtain rfl : e = c := Option.some.inj hc
        rcases he with rfl | rfl
        · exact ⟨by decide, by decide⟩
        · exact ⟨by decide, by decide⟩
  refine ⟨hafter, ?_⟩
  cases hfraction with
  | none => exact fun c hc => (hafter c hc).1
  | digits h =>
      intro c hc
      obtain rfl : '.' = c := Option.some.inj hc
      decide

theorem WholePart.exists_cons {cs : List Char} (h : WholePart cs) :
    ∃ c rest, cs = c :: rest ∧ isAsciiDigit c = true := by
  cases h with
  | zero => exact ⟨'0', [], rfl, by decide⟩
  | @digits c cs h hc => exact ⟨c, cs, rfl, h.2 c List.mem_cons_self⟩

/-- A number is read up to its end. -/
theorem readNumber_append {cs rest : List Char} (h : Numeral cs) (hrest : Ends rest) :
    readNumber (cs ++ rest) = some (String.ofList cs, rest) := by
  cases h with
  | @mk sign whole fraction exponent hsign hwhole hfraction hexponent =>
      obtain ⟨hafterFraction, hafterWhole⟩ := ends_parts hfraction hexponent hrest
      have hwholeRead := readIntegerPart_append hwhole hafterWhole
      have hfractionRead := readFraction_append hfraction hafterFraction
      have hexponentRead := readExponent_append hexponent hrest
      -- without a sign, the first character is a digit and is not taken for one
      obtain ⟨c, digits, hcons, hc⟩ := hwhole.exists_cons
      obtain ⟨-, hminus⟩ := ne_sign_of_isAsciiDigit hc
      rcases hsign with rfl | rfl
      · have hsplit : [] ++ whole ++ fraction ++ exponent ++ rest =
            whole ++ (fraction ++ (exponent ++ rest)) := by simp
        have hunsigned : ∀ rest', whole ++ (fraction ++ (exponent ++ rest)) ≠ '-' :: rest' := by
          intro rest' heq
          rw [hcons] at heq
          exact hminus (List.cons.inj heq).1
        rw [hsplit, readNumber, hwholeRead]
        · simp only [hfractionRead, hexponentRead, Option.bind_eq_bind, Option.bind_some]
          rfl
        · exact hunsigned
      · have hsplit : ['-'] ++ whole ++ fraction ++ exponent ++ rest =
            '-' :: (whole ++ (fraction ++ (exponent ++ rest))) := by simp
        rw [hsplit]
        simp only [readNumber, hwholeRead, hfractionRead, hexponentRead, Option.bind_eq_bind,
          Option.bind_some]
        rfl

/-! ## Documents -/

mutual

/-- Characters that spell a document, without blanks at either end. -/
inductive Spells : Json → List Char → Prop
  | null : Spells .null ['n', 'u', 'l', 'l']
  | boolTrue : Spells (.bool true) ['t', 'r', 'u', 'e']
  | boolFalse : Spells (.bool false) ['f', 'a', 'l', 's', 'e']
  | number {written : String} (h : Numeral written.toList) :
      Spells (.number written) written.toList
  | string (s : String) : Spells (.text s) (quotedChars s)
  | emptyArray {gap : List Char} (hgap : Blank gap) : Spells (.array []) ('[' :: (gap ++ [']']))
  | array {items : List Json} {cs : List Char} (h : SpellsItems items cs) :
      Spells (.array items) ('[' :: (cs ++ [']']))
  | emptyObject {gap : List Char} (hgap : Blank gap) :
      Spells (.object []) ('\x7b' :: (gap ++ ['\x7d']))
  | object {fields : List (Option String × Json)} {cs : List Char} (h : SpellsFields fields cs) :
      Spells (.object fields) ('\x7b' :: (cs ++ ['\x7d']))

/-- Items with blanks around them and commas between them. -/
inductive SpellsItems : List Json → List Char → Prop
  | last {item : Json} {before cs after : List Char} (hbefore : Blank before)
      (h : Spells item cs) (hafter : Blank after) : SpellsItems [item] (before ++ (cs ++ after))
  | more {item : Json} {items : List Json} {before cs after rest : List Char}
      (hbefore : Blank before) (h : Spells item cs) (hafter : Blank after)
      (hrest : SpellsItems items rest) :
      SpellsItems (item :: items) (before ++ (cs ++ (after ++ ',' :: rest)))

/-- Fields with blanks around their parts and commas between them. -/
inductive SpellsFields : List (Option String × Json) → List Char → Prop
  | last {key : String} {value : Json} {before middle between cs after : List Char}
      (hbefore : Blank before) (hmiddle : Blank middle) (hbetween : Blank between)
      (h : Spells value cs) (hafter : Blank after) :
      SpellsFields [(some key, value)]
        (before ++ (quotedChars key ++ (middle ++ ':' :: (between ++ (cs ++ after)))))
  | more {key : String} {value : Json} {fields : List (Option String × Json)}
      {before middle between cs after rest : List Char} (hbefore : Blank before)
      (hmiddle : Blank middle) (hbetween : Blank between) (h : Spells value cs)
      (hafter : Blank after) (hrest : SpellsFields fields rest) :
      SpellsFields ((some key, value) :: fields)
        (before ++ (quotedChars key ++ (middle ++ ':' :: (between ++ (cs ++
          (after ++ ',' :: rest))))))

end

/-- A text that spells a document, with blanks around it. -/
def SpelledBy (j : Json) (text : String) : Prop :=
  ∃ before cs after, Blank before ∧ Spells j cs ∧ Blank after ∧
    text = String.ofList (before ++ (cs ++ after))

/-! ## Reading -/

theorem Numeral.exists_cons {cs : List Char} (h : Numeral cs) :
    ∃ c rest, cs = c :: rest ∧ (c = '-' ∨ isAsciiDigit c = true) := by
  cases h with
  | @mk sign whole fraction exponent hsign hwhole hfraction hexponent =>
      obtain ⟨c, rest, rfl, hc⟩ := hwhole.exists_cons
      rcases hsign with rfl | rfl
      · exact ⟨c, _, rfl, Or.inr hc⟩
      · exact ⟨'-', _, rfl, Or.inl rfl⟩

theorem not_blank_of_isAsciiDigit {c : Char} (h : isAsciiDigit c = true) :
    isJsonBlank c = false := by
  cases hblank : isJsonBlank c with
  | false => rfl
  | true =>
      unfold isJsonBlank at hblank
      simp only [Bool.or_eq_true, decide_eq_true_eq] at hblank
      rcases hblank with ((rfl | rfl) | rfl) | rfl <;> exact absurd h (by decide)

theorem readValue_numeral {cs before rest : List Char} (hbefore : Blank before) (h : Numeral cs)
    (hrest : Ends rest) (fuel : Nat) : readValue (fuel + 1) (before ++ (cs ++ rest)) =
      some (.number (String.ofList cs), rest) := by
  have hread := readNumber_append h hrest
  obtain ⟨c, tail, rfl, hc⟩ := h.exists_cons
  have hblank : isJsonBlank c = false := by
    rcases hc with rfl | hc
    · decide
    · exact not_blank_of_isAsciiDigit hc
  have hother : c ≠ 'n' ∧ c ≠ 't' ∧ c ≠ 'f' ∧ c ≠ '"' ∧ c ≠ '[' ∧ c ≠ '\x7b' := by
    rcases hc with rfl | hc
    · decide
    · refine ⟨?_, ?_, ?_, ?_, ?_, ?_⟩ <;> (rintro rfl; exact absurd hc (by decide))
  rw [List.cons_append] at hread ⊢
  unfold readValue
  rw [skipBlanks_pad hbefore hblank]
  obtain ⟨hn, ht, hf, hquote, hbracket, hbrace⟩ := hother
  split
  · next heq => exact absurd (List.cons.inj heq).1 hn
  · next heq => exact absurd (List.cons.inj heq).1 ht
  · next heq => exact absurd (List.cons.inj heq).1 hf
  · next heq => exact absurd (List.cons.inj heq).1 hquote
  · next heq => exact absurd (List.cons.inj heq).1 hbracket
  · next heq => exact absurd (List.cons.inj heq).1 hbrace
  · rw [hread]
    rfl

theorem ends_of_blank {blanks : List Char} (h : Blank blanks) : Ends blanks := by
  intro c hc
  have hblank := h c (List.mem_of_mem_head? hc)
  unfold isJsonBlank at hblank
  simp only [Bool.or_eq_true, decide_eq_true_eq] at hblank
  rcases hblank with ((rfl | rfl) | rfl) | rfl <;> decide

theorem ends_of_closing {blanks : List Char} (h : Blank blanks) {c : Char}
    (hc : c ∈ [',', ']', '\x7d']) (rest : List Char) : Ends (blanks ++ c :: rest) := by
  have hclosing : ∀ c ∈ [',', ']', '\x7d'],
      isAsciiDigit c = false ∧ c ≠ '.' ∧ c ≠ 'e' ∧ c ≠ 'E' := by
    simp only [List.forall_mem_cons]
    exact ⟨by decide, by decide, by decide, List.forall_mem_nil _⟩
  intro c' hc'
  cases blanks with
  | nil =>
      obtain rfl : c = c' := Option.some.inj hc'
      exact hclosing c hc
  | cons b blanks => exact ends_of_blank h c' hc'

section

variable {fuel : Nat} {before middle after text more rest : List Char} {value : Json}
  {items : List Json} {fields : List (Option String × Json)}

theorem skipBlanks_skipBlanks (cs : List Char) : skipBlanks (skipBlanks cs) = skipBlanks cs := by
  unfold skipBlanks
  induction cs with
  | nil => rfl
  | cons c cs ih =>
      cases hc : isJsonBlank c with
      | true => rw [List.dropWhile_cons_of_pos hc, ih]
      | false =>
          have hnot : ¬ isJsonBlank c = true := by simp [hc]
          rw [List.dropWhile_cons_of_neg hnot, List.dropWhile_cons_of_neg hnot]

theorem readValue_skipBlanks (fuel : Nat) (cs : List Char) :
    readValue fuel (skipBlanks cs) = readValue fuel cs := by
  cases fuel with
  | zero => rfl
  | succ fuel =>
      unfold readValue
      rw [skipBlanks_skipBlanks]

theorem readItems_skipBlanks (fuel : Nat) (cs : List Char) :
    readItems fuel (skipBlanks cs) = readItems fuel cs := by
  cases fuel with
  | zero => rfl
  | succ fuel =>
      unfold readItems
      rw [readValue_skipBlanks]

theorem readFields_skipBlanks (fuel : Nat) (cs : List Char) :
    readFields fuel (skipBlanks cs) = readFields fuel cs := by
  cases fuel with
  | zero => rfl
  | succ fuel =>
      unfold readFields
      rw [skipBlanks_skipBlanks]

theorem readValue_string (hbefore : Blank before) (s : String) :
    readValue (fuel + 1) (before ++ (quotedChars s ++ rest)) = some (.text s, rest) := by
  have hread : ∀ cs, readValue (fuel + 1) cs = _ := fun cs => readValue.eq_2 cs fuel
  unfold quotedChars
  rw [hread, List.cons_append, skipBlanks_pad hbefore (by decide), List.append_assoc]
  change Option.map _ (readString (_ ++ '"' :: rest)) = _
  rw [readString_quoted]
  rfl

/-- What the reader does behind an opening bracket. -/
theorem readValue_bracket (hbefore : Blank before) :
    readValue (fuel + 1) (before ++ '[' :: text) =
      match skipBlanks text with
      | ']' :: rest => some (.array [], rest)
      | rest => (readItems fuel rest).map fun (items, rest) => (.array items, rest) := by
  unfold readValue
  rw [skipBlanks_pad hbefore (by decide)]
  rfl

/-- What the reader does behind an opening brace. -/
theorem readValue_brace (hbefore : Blank before) :
    readValue (fuel + 1) (before ++ '\x7b' :: text) =
      match skipBlanks text with
      | '\x7d' :: rest => some (.object [], rest)
      | rest => (readFields fuel rest).map fun (fields, rest) => (.object fields, rest) := by
  unfold readValue
  rw [skipBlanks_pad hbefore (by decide)]
  rfl

theorem readValue_emptyArray (hbefore : Blank before) (hmiddle : Blank middle) :
    readValue (fuel + 1) (before ++ '[' :: (middle ++ ']' :: rest)) = some (.array [], rest) := by
  rw [readValue_bracket hbefore, skipBlanks_pad hmiddle (by decide)]
  rfl

theorem readValue_emptyObject (hbefore : Blank before) (hmiddle : Blank middle) :
    readValue (fuel + 1) (before ++ '\x7b' :: (middle ++ '\x7d' :: rest)) =
      some (.object [], rest) := by
  rw [readValue_brace hbefore, skipBlanks_pad hmiddle (by decide)]
  rfl

theorem readValue_array (hbefore : Blank before) (hhead : ∀ cs, skipBlanks text ≠ ']' :: cs)
    (hitems : readItems fuel text = some (items, rest)) :
    readValue (fuel + 1) (before ++ '[' :: text) = some (.array items, rest) := by
  rw [readValue_bracket hbefore]
  split
  · next heq => exact absurd heq (hhead _)
  · rw [readItems_skipBlanks, hitems]
    rfl

theorem readValue_object (hbefore : Blank before) (hhead : ∀ cs, skipBlanks text ≠ '\x7d' :: cs)
    (hfields : readFields fuel text = some (fields, rest)) :
    readValue (fuel + 1) (before ++ '\x7b' :: text) = some (.object fields, rest) := by
  rw [readValue_brace hbefore]
  split
  · next heq => exact absurd heq (hhead _)
  · rw [readFields_skipBlanks, hfields]
    rfl

/-- What the reader does behind an item. -/
theorem readItems_item (hvalue : readValue fuel text = some (value, rest)) :
    readItems (fuel + 1) text =
      match skipBlanks rest with
      | ',' :: rest => (readItems fuel rest).map fun (items, rest) => (value :: items, rest)
      | ']' :: rest => some ([value], rest)
      | _ => none := by
  have hitems := readItems.eq_2 text fuel
  rw [hvalue] at hitems
  exact hitems

theorem readItems_last (hvalue : readValue fuel text = some (value, after ++ ']' :: rest))
    (hafter : Blank after) : readItems (fuel + 1) text = some ([value], rest) := by
  rw [readItems_item hvalue, skipBlanks_pad hafter (by decide)]
  rfl

theorem readItems_more (hvalue : readValue fuel text = some (value, after ++ ',' :: more))
    (hafter : Blank after) (hmore : readItems fuel more = some (items, rest)) :
    readItems (fuel + 1) text = some (value :: items, rest) := by
  rw [readItems_item hvalue, skipBlanks_pad hafter (by decide)]
  change Option.map _ (readItems fuel more) = _
  rw [hmore]
  rfl

/-- What the reader does behind a field. -/
theorem readFields_field (hbefore : Blank before) (hmiddle : Blank middle) (key : String)
    (hvalue : readValue fuel text = some (value, rest)) :
    readFields (fuel + 1) (before ++ (quotedChars key ++ (middle ++ ':' :: text))) =
      match skipBlanks rest with
      | ',' :: rest =>
        (readFields fuel rest).map fun (fields, rest) => ((some key, value) :: fields, rest)
      | '\x7d' :: rest => some ([(some key, value)], rest)
      | _ => none := by
  have hkey := readString_quoted key (middle ++ ':' :: text)
  have hcolon : skipBlanks (middle ++ ':' :: text) = ':' :: text :=
    skipBlanks_pad hmiddle (by decide) text
  have hquote : skipBlanks (before ++ (quotedChars key ++ (middle ++ ':' :: text))) =
      '"' :: (key.toList.flatMap escapeChar ++ '"' :: (middle ++ ':' :: text)) := by
    rw [quotedChars, List.cons_append, skipBlanks_pad hbefore (by decide), List.append_assoc,
      List.cons_append, List.nil_append]
  have hfields := readFields.eq_2 (before ++ (quotedChars key ++ (middle ++ ':' :: text))) fuel
  rw [hquote] at hfields
  simp only [hkey, hcolon, hvalue] at hfields
  exact hfields

theorem readFields_last (hbefore : Blank before) (hmiddle : Blank middle) (key : String)
    (hvalue : readValue fuel text = some (value, after ++ '\x7d' :: rest)) (hafter : Blank after) :
    readFields (fuel + 1) (before ++ (quotedChars key ++ (middle ++ ':' :: text))) =
      some ([(some key, value)], rest) := by
  rw [readFields_field hbefore hmiddle key hvalue, skipBlanks_pad hafter (by decide)]
  rfl

theorem readFields_more (hbefore : Blank before) (hmiddle : Blank middle) (key : String)
    (hvalue : readValue fuel text = some (value, after ++ ',' :: more)) (hafter : Blank after)
    (hmore : readFields fuel more = some (fields, rest)) :
    readFields (fuel + 1) (before ++ (quotedChars key ++ (middle ++ ':' :: text))) =
      some ((some key, value) :: fields, rest) := by
  rw [readFields_field hbefore hmiddle key hvalue, skipBlanks_pad hafter (by decide)]
  change Option.map _ (readFields fuel more) = _
  rw [hmore]
  rfl

end

/-! ## What a document starts with -/

/-- No document starts with a blank or with the end of an array. -/
theorem Spells.exists_cons {j : Json} {cs : List Char} (h : Spells j cs) :
    ∃ c rest, cs = c :: rest ∧ isJsonBlank c = false ∧ c ≠ ']' := by
  cases h with
  | number h =>
      obtain ⟨c, rest, heq, hc⟩ := h.exists_cons
      refine ⟨c, rest, heq, ?_⟩
      rcases hc with rfl | hc
      · decide
      · refine ⟨not_blank_of_isAsciiDigit hc, ?_⟩
        rintro rfl
        exact absurd hc (by decide)
  | string s => exact ⟨'"', _, rfl, by decide, by decide⟩
  | _ => exact ⟨_, _, rfl, by decide, by decide⟩

theorem SpellsItems.skipBlanks_ne {items : List Json} {cs : List Char} (h : SpellsItems items cs)
    (rest tail : List Char) : skipBlanks (cs ++ rest) ≠ ']' :: tail := by
  cases h with
  | last hbefore h hafter =>
      obtain ⟨c, inner, rfl, hblank, hne⟩ := h.exists_cons
      rw [List.append_assoc, List.cons_append, List.cons_append, skipBlanks_pad hbefore hblank]
      exact fun heq => hne (List.cons.inj heq).1
  | more hbefore h hafter hrest =>
      obtain ⟨c, inner, rfl, hblank, hne⟩ := h.exists_cons
      rw [List.append_assoc, List.cons_append, List.cons_append, skipBlanks_pad hbefore hblank]
      exact fun heq => hne (List.cons.inj heq).1

theorem SpellsFields.skipBlanks_ne {fields : List (Option String × Json)} {cs : List Char}
    (h : SpellsFields fields cs) (rest tail : List Char) :
    skipBlanks (cs ++ rest) ≠ '\x7d' :: tail := by
  have hquote : ∀ {before : List Char} (key : String) (cs : List Char), Blank before →
      skipBlanks (before ++ (quotedChars key ++ cs)) ≠ '\x7d' :: tail := by
    intro before key cs hbefore
    unfold quotedChars
    rw [List.cons_append, skipBlanks_pad hbefore (by decide)]
    exact fun heq => absurd (List.cons.inj heq).1 (by decide)
  cases h with
  | last hbefore _ _ _ _ =>
      rw [List.append_assoc, List.append_assoc]
      exact hquote _ _ hbefore
  | more hbefore _ _ _ _ _ =>
      rw [List.append_assoc, List.append_assoc]
      exact hquote _ _ hbefore

/-- The three readers, each with enough fuel for the characters that it is to read. -/
theorem read_of_spells (fuel : Nat) :
    (∀ {j : Json} {cs before rest : List Char}, Spells j cs → Blank before → Ends rest →
      cs.length < fuel → readValue fuel (before ++ (cs ++ rest)) = some (j, rest)) ∧
    (∀ {items : List Json} {cs : List Char} (rest : List Char), SpellsItems items cs →
      cs.length + 1 < fuel → readItems fuel (cs ++ ']' :: rest) = some (items, rest)) ∧
    ∀ {fields : List (Option String × Json)} {cs : List Char} (rest : List Char),
      SpellsFields fields cs → cs.length + 1 < fuel →
        readFields fuel (cs ++ '\x7d' :: rest) = some (fields, rest) := by
  -- the readers call each other with one fuel less, and a bracket, a comma or a
  -- closing mark pays for each call
  induction fuel with
  | zero => exact ⟨fun _ _ _ h => absurd h (Nat.not_lt_zero _),
      fun _ _ h => absurd h (Nat.not_lt_zero _), fun _ _ h => absurd h (Nat.not_lt_zero _)⟩
  | succ fuel ih =>
      obtain ⟨ihvalue, ihitems, ihfields⟩ := ih
      refine ⟨?_, ?_, ?_⟩
      · intro j cs before rest h hbefore hrest hfuel
        cases h with
        | null | boolTrue | boolFalse =>
            unfold readValue
            rw [List.cons_append, skipBlanks_pad hbefore (by decide)]
            rfl
        | @number written h =>
            rw [readValue_numeral hbefore h hrest, String.ofList_toList]
        | string s => exact readValue_string hbefore s
        | emptyArray hgap =>
            rw [List.cons_append, List.append_assoc]
            exact readValue_emptyArray hbefore hgap
        | emptyObject hgap =>
            rw [List.cons_append, List.append_assoc]
            exact readValue_emptyObject hbefore hgap
        | array h =>
            rw [List.length_cons, List.length_append] at hfuel
            rw [List.cons_append, List.append_assoc]
            exact readValue_array hbefore (h.skipBlanks_ne _) (ihitems rest h (by simpa using hfuel))
        | object h =>
            rw [List.length_cons, List.length_append] at hfuel
            rw [List.cons_append, List.append_assoc]
            exact readValue_object hbefore (h.skipBlanks_ne _)
              (ihfields rest h (by simpa using hfuel))
      · intro items cs rest h hfuel
        cases h with
        | last hbefore h hafter =>
            have hends := ends_of_closing hafter (by decide : ']' ∈ _) rest
            have hvalue := ihvalue h hbefore hends (by simp at hfuel; omega)
            rw [List.append_assoc, List.append_assoc]
            exact readItems_last hvalue hafter
        | @more item items before cs after more hbefore h hafter hmore =>
            have hends := ends_of_closing hafter (by decide : ',' ∈ _) (more ++ ']' :: rest)
            have hvalue := ihvalue h hbefore hends (by simp at hfuel; omega)
            have hrest := ihitems rest hmore (by simp at hfuel; omega)
            rw [List.append_assoc, List.append_assoc, List.append_assoc, List.cons_append]
            exact readItems_more hvalue hafter hrest
      · intro fields cs rest h hfuel
        cases h with
        | @last key value before middle between cs after hbefore hmiddle hbetween h hafter =>
            have hends := ends_of_closing hafter (by decide : '\x7d' ∈ _) rest
            have hvalue := ihvalue h hbetween hends (by simp at hfuel; omega)
            rw [List.append_assoc, List.append_assoc, List.append_assoc, List.cons_append,
              List.append_assoc, List.append_assoc]
            exact readFields_last hbefore hmiddle key hvalue hafter
        | @more key value fields before middle between cs after more hbefore hmiddle hbetween h
            hafter hmore =>
            have hends := ends_of_closing hafter (by decide : ',' ∈ _) (more ++ '\x7d' :: rest)
            have hvalue := ihvalue h hbetween hends (by simp at hfuel; omega)
            have hrest := ihfields rest hmore (by simp at hfuel; omega)
            rw [List.append_assoc, List.append_assoc, List.append_assoc, List.cons_append,
              List.append_assoc, List.append_assoc, List.append_assoc, List.cons_append]
            exact readFields_more hbefore hmiddle key hvalue hafter hrest

/-- A text that spells a document is read as that document. -/
theorem parse?_of_spelledBy {j : Json} {text : String} (h : j.SpelledBy text) :
    parse? text = some j := by
  obtain ⟨before, cs, after, hbefore, hspells, hafter, rfl⟩ := h
  have hfuel : cs.length < (String.ofList (before ++ (cs ++ after))).length + 1 := by
    rw [String.length_ofList, List.length_append, List.length_append]
    omega
  unfold parse?
  rw [String.toList_ofList, (read_of_spells _).1 hspells hbefore (ends_of_blank hafter) hfuel]
  dsimp only
  rw [if_pos (isEmpty_skipBlanks hafter)]

end Scaffold.Json
