import Mathlib.Data.List.Infix
import Mathlib.Data.List.TakeWhile
import Scaffold.Proofs.Text.Backticks
import Scaffold.Template.Fault

/-!
# Names in explanations

The kind of a failure is recovered from its explanation: a name between two backticks,
with fixed words in front and behind, is taken for a name without a value. Explanations
quote much else between backticks. Where the quoted texts hold no backtick themselves, the
backticks of an explanation are those of its own words, and it can be told from these
words alone that no name is found.
-/

namespace Scaffold.Template

open Text

/-! ## Backticks -/

/-- The words in front of a name without a value. -/
def opening : List Char := "Variable ".toList

/-- The words behind it. -/
def closing : List Char := " not found in context".toList

section

variable {p q r cs : List Char}

theorem takeWhile_tick (hp : '\x60' ∉ p) (r : List Char) :
    (p ++ '\x60' :: r).takeWhile (· != '\x60') = p := by
  induction p with
  | nil => rfl
  | cons c p ih =>
      have hc : (c != '\x60') = true := by
        rw [bne_iff_ne]
        exact fun heq => hp (heq ▸ List.mem_cons_self)
      have hrest := ih fun hmem => hp (List.mem_cons_of_mem _ hmem)
      simp [hc, hrest]

theorem stripPrefix_opening (hp : '\x60' ∉ p) (r : List Char) :
    stripPrefixChars "Variable \x60".toList (p ++ '\x60' :: r) =
      if p = opening then some r else none := by
  have hword : "Variable \x60".toList = opening ++ ['\x60'] := by decide
  rw [hword]
  split
  · next heq =>
    rw [heq, stripPrefixChars_eq_some_iff, List.append_assoc]
    rfl
  · next hne =>
    refine Option.eq_none_iff_forall_not_mem.mpr fun rest hrest => hne ?_
    have hsplit := stripPrefixChars_eq_some_iff.mp hrest
    rw [List.append_assoc, List.singleton_append] at hsplit
    have hwhile := congrArg (List.takeWhile (· != '\x60')) hsplit
    rwa [takeWhile_tick hp, takeWhile_tick (by decide)] at hwhile

theorem stripPrefix_closing (r : List Char) :
    (stripPrefixChars "\x60 not found in context".toList ('\x60' :: r)).isSome =
      decide (closing <+: r) := by
  have hword : "\x60 not found in context".toList = '\x60' :: closing := by decide
  rw [hword, stripPrefixChars, if_pos rfl, Bool.eq_iff_iff, decide_eq_true_iff]
  constructor
  · intro h
    obtain ⟨rest, hrest⟩ := Option.isSome_iff_exists.mp h
    exact ⟨rest, (stripPrefixChars_eq_some_iff.mp hrest).symm⟩
  · rintro ⟨rest, rfl⟩
    rw [stripPrefixChars_eq_some_iff.mpr rfl]
    rfl

/-- Without a backtick there is no name. -/
theorem undefinedNameIn_of_not_mem (h : '\x60' ∉ cs) : undefinedNameIn cs = none := by
  induction cs with
  | nil => rfl
  | cons c cs ih =>
      have hnone : stripPrefixChars "Variable \x60".toList (c :: cs) = none := by
        refine Option.eq_none_iff_forall_not_mem.mpr fun rest hrest => h ?_
        rw [stripPrefixChars_eq_some_iff.mp hrest]
        exact List.mem_append_left _ (by decide)
      unfold undefinedNameIn
      rw [hnone]
      exact ih fun hmem => h (List.mem_cons_of_mem _ hmem)

/-- The name that stands in front of a backtick and the words behind a name. -/
def nameBefore (r : List Char) : Option (List Char) :=
  let name := r.takeWhile (· != '\x60')
  if name.isEmpty then none
  else
    (stripPrefixChars "\x60 not found in context".toList (r.drop name.length)).map fun _ => name

/-- At the first backtick a name begins, or the backtick is passed over. -/
theorem undefinedNameIn_tick (hp : '\x60' ∉ p) (r : List Char) :
    undefinedNameIn (p ++ '\x60' :: r) =
      ((if opening <:+ p then nameBefore r else none).or (undefinedNameIn r)) := by
  have hstep : ∀ c p, '\x60' ∉ c :: p → undefinedNameIn (c :: (p ++ '\x60' :: r)) =
      (if c :: p = opening then nameBefore r else none).or
        (undefinedNameIn (p ++ '\x60' :: r)) := by
    intro c p hp
    rw [undefinedNameIn, ← List.cons_append, stripPrefix_opening hp]
    by_cases heq : c :: p = opening
    · rw [if_pos heq, if_pos heq]
      cases hname : nameBefore r <;> simp only [nameBefore] at hname <;> simp only [hname] <;> rfl
    · rw [if_neg heq, if_neg heq]
      rfl
  induction p with
  | nil =>
      have hnone : ¬ opening <:+ [] := by decide
      rw [if_neg hnone, List.nil_append, undefinedNameIn, ← List.nil_append ('\x60' :: r),
        stripPrefix_opening List.not_mem_nil, if_neg (by decide)]
      rfl
  | cons c p ih =>
      rw [List.cons_append, hstep c p hp, ih fun hmem => hp (List.mem_cons_of_mem _ hmem)]
      by_cases heq : c :: p = opening
      · have hshort : ¬ opening <:+ p := fun hsuffix => by
          have hlength := hsuffix.length_le
          rw [← heq, List.length_cons] at hlength
          omega
        have hwhole : opening <:+ c :: p := heq.symm ▸ List.suffix_refl opening
        rw [if_pos heq, if_pos hwhole, if_neg hshort, Option.none_or]
      · have hiff : opening <:+ c :: p ↔ opening <:+ p := by
          rw [List.suffix_cons_iff]
          exact or_iff_right fun h => heq h.symm
        rw [if_neg heq, Option.none_or]
        simp only [hiff]

/-- A single backtick closes no name. -/
theorem undefinedNameIn_once (hp : '\x60' ∉ p) (hq : '\x60' ∉ q) :
    undefinedNameIn (p ++ '\x60' :: q) = none := by
  have hall : q.takeWhile (· != '\x60') = q := by
    refine List.takeWhile_eq_self_iff.mpr fun c hc => ?_
    rw [bne_iff_ne]
    exact fun heq => hq (heq ▸ hc)
  have hend : stripPrefixChars "\x60 not found in context".toList [] = none := by decide
  have hname : nameBefore q = none := by
    unfold nameBefore
    dsimp only
    rw [hall, List.drop_length]
    split
    · rfl
    · rw [hend]
      rfl
  rw [undefinedNameIn_tick hp, hname, undefinedNameIn_of_not_mem hq, ite_self, Option.or_none]

/-- At the first two backticks a name is found, or the first one is passed over. -/
theorem undefinedNameIn_quote (hp : '\x60' ∉ p) (hq : '\x60' ∉ q) (r : List Char) :
    undefinedNameIn (p ++ '\x60' :: (q ++ '\x60' :: r)) =
      if opening <:+ p ∧ q ≠ [] ∧ closing <+: r then some q
      else undefinedNameIn (q ++ '\x60' :: r) := by
  have hname : nameBefore (q ++ '\x60' :: r) = if q ≠ [] ∧ closing <+: r then some q else none := by
    unfold nameBefore
    dsimp only
    rw [takeWhile_tick hq, List.drop_left]
    have hclosing := stripPrefix_closing r
    cases hstrip : stripPrefixChars "\x60 not found in context".toList ('\x60' :: r) with
    | none =>
        rw [hstrip] at hclosing
        have hno : ¬ closing <+: r := of_decide_eq_false hclosing.symm
        have hnot : ¬ (q ≠ [] ∧ closing <+: r) := fun h => hno h.2
        rw [if_neg hnot, Option.map_none, ite_self]
    | some rest =>
        rw [hstrip] at hclosing
        have hyes : closing <+: r := of_decide_eq_true hclosing.symm
        by_cases hempty : q = []
        · rw [if_pos (List.isEmpty_iff.mpr hempty), if_neg fun h => h.1 hempty]
        · rw [if_neg (mt List.isEmpty_iff.mp hempty), if_pos ⟨hempty, hyes⟩]
          rfl
  rw [undefinedNameIn_tick hp, hname]
  by_cases hopening : opening <:+ p
  · by_cases hrest : q ≠ [] ∧ closing <+: r
    · rw [if_pos hopening, if_pos hrest, if_pos ⟨hopening, hrest⟩]
      rfl
    · rw [if_pos hopening, if_neg hrest, if_neg fun h => hrest h.2, Option.none_or]
  · rw [if_neg hopening, if_neg fun h => hopening h.1, Option.none_or]

end

/-! ## Wordings -/

/-- A part of an explanation: its own words, or a text that it quotes. -/
inductive Phrase where
  | words (s : String)
  | quoted
  /-- A quoted text that does not say of a name that it was not found. -/
  | named
  /-- A quoted word. -/
  | word

/-- A text that is no word of several and holds something. -/
def IsWord (s : String) : Prop := s ≠ "" ∧ Unticked s ∧ ' ' ∉ s.toList

instance (s : String) : Decidable (IsWord s) :=
  inferInstanceAs (Decidable (s ≠ "" ∧ Unticked s ∧ ' ' ∉ s.toList))

/-- A text that does not say of a name that it was not found. -/
def IsNamed (s : String) : Prop := Unticked s ∧ ¬ closing <:+: s.toList

instance (s : String) : Decidable (IsNamed s) :=
  inferInstanceAs (Decidable (Unticked s ∧ ¬ closing <:+: s.toList))

/-- The parts of an explanation with the quoted texts in their places. -/
def fill : List Phrase → List String → List String
  | [], _ => []
  | .words s :: phrases, texts => s :: fill phrases texts
  | .quoted :: phrases, text :: texts | .named :: phrases, text :: texts
  | .word :: phrases, text :: texts => text :: fill phrases texts
  | _ :: _, [] => []

/-- The texts that an explanation quotes are of the kinds that it quotes. -/
def Suits : List Phrase → List String → Prop
  | [], texts => texts = []
  | .words _ :: phrases, texts => Suits phrases texts
  | .quoted :: phrases, text :: texts => Unticked text ∧ Suits phrases texts
  | .named :: phrases, text :: texts => IsNamed text ∧ Suits phrases texts
  | .word :: phrases, text :: texts => IsWord text ∧ Suits phrases texts
  | _ :: _, [] => False

/-- The text of an explanation. -/
def wording : List String → String
  | [] => ""
  | part :: parts => parts.foldl (· ++ ·) part

theorem toList_wording (parts : List String) :
    (wording parts).toList = parts.flatMap String.toList := by
  cases parts with
  | nil => rfl
  | cons part parts =>
      rw [wording, List.flatMap_cons]
      induction parts generalizing part with
      | nil => simp
      | cons next parts ih =>
          rw [List.foldl_cons, ih, String.toList_append, List.append_assoc, List.flatMap_cons]

/-! ## Pieces between backticks -/

/-- What is known of an explanation without the quoted texts. -/
inductive Mark where
  | char (c : Char)
  | quoted
  | named
  | word
  deriving DecidableEq

def Mark.char? : Mark → Option Char
  | char c => some c
  | _ => none

/-- Characters without a backtick that fit a piece of an explanation. -/
inductive Fits : List Mark → List Char → Prop
  | nil : Fits [] []
  | char {c : Char} {marks : List Mark} {cs : List Char} (hc : c ≠ '\x60') (h : Fits marks cs) :
      Fits (.char c :: marks) (c :: cs)
  | quoted {s : String} {marks : List Mark} {cs : List Char} (hs : Unticked s)
      (h : Fits marks cs) : Fits (.quoted :: marks) (s.toList ++ cs)
  | named {s : String} {marks : List Mark} {cs : List Char} (hs : IsNamed s)
      (h : Fits marks cs) : Fits (.named :: marks) (s.toList ++ cs)
  | word {s : String} {marks : List Mark} {cs : List Char} (hs : IsWord s)
      (h : Fits marks cs) : Fits (.word :: marks) (s.toList ++ cs)

/-- Characters that fit the pieces of an explanation, with backticks between them. -/
inductive FitsPieces : List (List Mark) → List Char → Prop
  | last {piece : List Mark} {cs : List Char} (h : Fits piece cs) : FitsPieces [piece] cs
  | cons {piece : List Mark} {pieces : List (List Mark)} {cs rest : List Char} (h : Fits piece cs)
      (hrest : FitsPieces pieces rest) : FitsPieces (piece :: pieces) (cs ++ '\x60' :: rest)

/-- Puts a mark in front of the first piece. -/
def pushMark (mark : Mark) : List (List Mark) → List (List Mark)
  | [] => [[mark]]
  | piece :: pieces => (mark :: piece) :: pieces

/-- Puts characters in front of the first piece; a backtick begins another piece. -/
def pushChars : List Char → List (List Mark) → List (List Mark)
  | [], pieces => pieces
  | c :: cs, pieces =>
    if c = '\x60' then [] :: pushChars cs pieces else pushMark (.char c) (pushChars cs pieces)

/-- The pieces of an explanation between its backticks. -/
def piecesOf : List Phrase → List (List Mark)
  | [] => [[]]
  | .words s :: phrases => pushChars s.toList (piecesOf phrases)
  | .quoted :: phrases => pushMark .quoted (piecesOf phrases)
  | .named :: phrases => pushMark .named (piecesOf phrases)
  | .word :: phrases => pushMark .word (piecesOf phrases)

section

variable {pieces : List (List Mark)} {cs : List Char}

theorem FitsPieces.push {mark : Mark} {front : List Char}
    (hmark : ∀ {marks cs}, Fits marks cs → Fits (mark :: marks) (front ++ cs))
    (h : FitsPieces pieces cs) : FitsPieces (pushMark mark pieces) (front ++ cs) := by
  cases h with
  | last h => exact .last (hmark h)
  | cons h hrest =>
      rw [← List.append_assoc]
      exact .cons (hmark h) hrest

theorem FitsPieces.pushChars (h : FitsPieces pieces cs) (front : List Char) :
    FitsPieces (pushChars front pieces) (front ++ cs) := by
  induction front with
  | nil => exact h
  | cons c front ih =>
      unfold Template.pushChars
      split
      · next hc =>
        rw [hc]
        exact .cons .nil ih
      · next hc =>
        have hmark : ∀ {marks cs}, Fits marks cs → Fits (.char c :: marks) ([c] ++ cs) :=
          fun hfits => Fits.char hc hfits
        have hpush := ih.push hmark
        exact hpush

/-- The quoted texts in their places give characters that fit the pieces. -/
theorem fitsPieces_fill : ∀ {phrases : List Phrase} {texts : List String}, Suits phrases texts →
    FitsPieces (piecesOf phrases) ((fill phrases texts).flatMap String.toList)
  | [], _, _ => .last .nil
  | .words s :: phrases, texts, h => by
      have hrest : Suits phrases texts := h
      exact (fitsPieces_fill hrest).pushChars s.toList
  | .quoted :: phrases, text :: texts, h => (fitsPieces_fill h.2).push (.quoted h.1)
  | .named :: phrases, text :: texts, h => (fitsPieces_fill h.2).push (.named h.1)
  | .word :: phrases, text :: texts, h => (fitsPieces_fill h.2).push (.word h.1)

end

/-! ## Mute explanations -/

/-- The characters that a piece certainly begins with. -/
def certainStart : List Mark → List Char
  | .char c :: marks => c :: certainStart marks
  | _ => []

/-- The characters that a piece certainly ends with. -/
def certainEnd : List Mark → List Char
  | [] => []
  | mark :: marks =>
    if marks.all fun mark => mark.char?.isSome then mark.char?.toList ++ certainEnd marks
    else certainEnd marks

/-- Whether a piece can end with the words in front of a name. -/
def mayOpen (piece : List Mark) : Bool :=
  piece.getLast? != some .word &&
    ((certainEnd piece).isSuffixOf opening || opening.isSuffixOf (certainEnd piece))

/-- Whether a piece begins with a text that does not hold the words behind a name, and
goes on with none of their characters. -/
def startsNamed : List Mark → Bool
  | [.named] => true
  | .named :: .char c :: _ => !closing.contains c
  | _ => false

/-- Whether a piece can begin with the words behind a name. -/
def mayClose (piece : List Mark) : Bool :=
  piece.head? != some .word && !startsNamed piece &&
    ((certainStart piece).isPrefixOf closing || closing.isPrefixOf (certainStart piece))

/-- Whether no two backticks can have a name between them. -/
def isMute : List (List Mark) → Bool
  | p :: q :: r :: pieces => (!mayOpen p || q.isEmpty || !mayClose r) && isMute (q :: r :: pieces)
  | _ => true

section

variable {piece : List Mark} {cs rest : List Char}

theorem Fits.not_mem (h : Fits piece cs) : '\x60' ∉ cs := by
  induction h with
  | nil => exact List.not_mem_nil
  | char hc _ ih => exact List.not_mem_cons_of_ne_of_not_mem (fun heq => hc heq.symm) ih
  | quoted hs _ ih => exact fun hmem => (List.mem_append.mp hmem).elim hs ih
  | named hs _ ih => exact fun hmem => (List.mem_append.mp hmem).elim hs.1 ih
  | word hs _ ih => exact fun hmem => (List.mem_append.mp hmem).elim hs.2.1 ih

theorem Fits.certainStart_prefix (h : Fits piece cs) : certainStart piece <+: cs := by
  induction h with
  | char _ _ ih => exact List.cons_prefix_cons.mpr ⟨rfl, ih⟩
  | _ => exact List.nil_prefix

theorem Fits.certainEnd_suffix (h : Fits piece cs) : certainEnd piece <:+ cs ∧
    ((piece.all fun mark => mark.char?.isSome) = true → certainEnd piece = cs) := by
  have hquoted : ∀ (mark : Mark) (marks : List Mark) (front cs : List Char), mark.char? = none →
      certainEnd marks <:+ cs → certainEnd (mark :: marks) <:+ front ++ cs := by
    intro mark marks front cs hmark hsuffix
    have hsame : certainEnd (mark :: marks) = certainEnd marks := by
      rw [certainEnd, hmark]
      exact ite_self _
    rw [hsame]
    exact hsuffix.trans (List.suffix_append _ _)
  induction h with
  | nil => exact ⟨List.suffix_refl _, fun _ => rfl⟩
  | @char c marks cs hc h ih =>
      by_cases hall : (marks.all fun mark => mark.char?.isSome) = true
      · have hsame : certainEnd (.char c :: marks) = c :: cs := by
          rw [certainEnd, if_pos hall, ih.2 hall]
          rfl
        exact ⟨hsame ▸ List.suffix_refl _, fun _ => hsame⟩
      · rw [certainEnd, if_neg hall]
        refine ⟨ih.1.trans (List.suffix_cons c cs), fun h => absurd ?_ hall⟩
        rw [List.all_cons, Bool.and_eq_true] at h
        exact h.2
  | quoted hs h ih => exact ⟨hquoted _ _ _ _ rfl ih.1, fun h => absurd h (by simp [Mark.char?])⟩
  | named hs h ih => exact ⟨hquoted _ _ _ _ rfl ih.1, fun h => absurd h (by simp [Mark.char?])⟩
  | word hs h ih => exact ⟨hquoted _ _ _ _ rfl ih.1, fun h => absurd h (by simp [Mark.char?])⟩

/-- A piece that ends in a word ends without a blank. -/
theorem Fits.getLast_of_word (h : Fits piece cs) (hword : piece.getLast? = some .word) :
    ∃ c, cs.getLast? = some c ∧ c ≠ ' ' := by
  -- in front of other marks a mark does not change how the piece ends
  have hlater : ∀ {mark : Mark} {marks : List Mark} {front cs : List Char}, marks ≠ [] →
      (marks.getLast? = some .word → ∃ c, cs.getLast? = some c ∧ c ≠ ' ') →
      (mark :: marks).getLast? = some .word → ∃ c, (front ++ cs).getLast? = some c ∧ c ≠ ' ' := by
    intro mark marks front cs hne ih hword
    obtain ⟨next, more, rfl⟩ := List.exists_cons_of_ne_nil hne
    rw [List.getLast?_cons_cons] at hword
    obtain ⟨c, hc, hblank⟩ := ih hword
    exact ⟨c, by rw [List.getLast?_append, hc, Option.some_or], hblank⟩
  induction h with
  | nil => exact absurd hword nofun
  | @char c marks cs hc h ih =>
      by_cases hempty : marks = []
      · rw [hempty] at hword
        exact absurd hword nofun
      · have hlast : ∃ d, ([c] ++ cs).getLast? = some d ∧ d ≠ ' ' := hlater hempty ih hword
        exact hlast
  | @quoted s marks cs hs h ih =>
      by_cases hempty : marks = []
      · rw [hempty] at hword
        exact absurd hword nofun
      · exact hlater hempty ih hword
  | @named s marks cs hs h ih =>
      by_cases hempty : marks = []
      · rw [hempty] at hword
        exact absurd hword nofun
      · exact hlater hempty ih hword
  | @word s marks cs hs h ih =>
      by_cases hempty : marks = []
      · subst hempty
        cases h
        have hne : s.toList ≠ [] := fun hnil => hs.1 (String.toList_eq_nil_iff.mp hnil)
        rw [List.append_nil, List.getLast?_eq_some_getLast hne]
        exact ⟨_, rfl, fun heq => hs.2.2 (heq ▸ List.getLast_mem hne)⟩
      · exact hlater hempty ih hword

theorem not_opening_of_fits (h : Fits piece cs) (hmute : mayOpen piece = false)
    (front : List Char) : ¬ opening <:+ front ++ cs := by
  intro hopening
  rw [mayOpen, Bool.and_eq_false_iff] at hmute
  rcases hmute with hword | hapart
  · obtain ⟨c, hc, hblank⟩ := h.getLast_of_word (by simpa using hword)
    obtain ⟨before, hbefore⟩ := hopening
    have hlast : (before ++ opening).getLast? = some ' ' := by
      rw [List.getLast?_append, show opening.getLast? = some ' ' by decide, Option.some_or]
    rw [hbefore, List.getLast?_append, hc, Option.some_or] at hlast
    exact hblank (Option.some.inj hlast)
  · rw [Bool.or_eq_false_iff] at hapart
    have hend := h.certainEnd_suffix.1.trans (List.suffix_append front cs)
    rcases List.suffix_or_suffix_of_suffix hopening hend with hsuffix | hsuffix
    · exact absurd (List.isSuffixOf_iff_suffix.mpr hsuffix) (Bool.eq_false_iff.mp hapart.2)
    · exact absurd (List.isSuffixOf_iff_suffix.mpr hsuffix) (Bool.eq_false_iff.mp hapart.1)

theorem not_closing_append (h : ¬ closing <+: cs) {c : Char} (hc : c ∉ closing)
    (rest : List Char) : ¬ closing <+: cs ++ c :: rest := by
  intro hclosing
  rcases List.prefix_or_prefix_of_prefix hclosing (List.prefix_append cs _) with hprefix | hprefix
  · exact h hprefix
  · obtain ⟨more, hmore⟩ := hprefix
    rw [← hmore, List.prefix_append_right_inj] at hclosing
    cases more with
    | nil => exact h (by rw [← hmore, List.append_nil])
    | cons d more =>
        obtain ⟨rfl, -⟩ := List.cons_prefix_cons.mp hclosing
        exact hc (hmore ▸ List.mem_append_right _ List.mem_cons_self)

theorem Fits.not_closing_of_startsNamed (h : Fits piece cs) (hnamed : startsNamed piece = true) :
    ¬ closing <+: cs := by
  cases h with
  | @named s marks cs hs h =>
      have hclosing : ¬ closing <+: s.toList := fun hprefix => hs.2 hprefix.isInfix
      cases h with
      | nil =>
          rw [List.append_nil]
          exact hclosing
      | char hc h =>
          refine not_closing_append hclosing ?_ _
          simpa [startsNamed] using hnamed
      | _ => exact absurd hnamed (by simp [startsNamed])
  | _ => exact absurd hnamed (by simp [startsNamed])

theorem not_closing_of_fits (h : Fits piece cs) (hmute : mayClose piece = false) :
    ¬ closing <+: cs := by
  intro hclosing
  rw [mayClose, Bool.and_eq_false_iff, Bool.and_eq_false_iff] at hmute
  rcases hmute with (hword | hnamed) | hapart
  · cases h with
    | @word s marks cs hs h =>
        obtain ⟨c, rest, hcons⟩ := List.exists_cons_of_ne_nil
          (fun hnil => hs.1 (String.toList_eq_nil_iff.mp hnil))
        rw [hcons, show closing = ' ' :: closing.tail by decide, List.cons_append,
          List.cons_prefix_cons] at hclosing
        refine hs.2.2 ?_
        rw [hcons, hclosing.1]
        exact List.mem_cons_self
    | _ => exact absurd hword (by simp)
  · exact h.not_closing_of_startsNamed (by simpa using hnamed) hclosing
  · rw [Bool.or_eq_false_iff] at hapart
    rcases List.prefix_or_prefix_of_prefix hclosing h.certainStart_prefix with hprefix | hprefix
    · exact absurd (List.isPrefixOf_iff_prefix.mpr hprefix) (Bool.eq_false_iff.mp hapart.2)
    · exact absurd (List.isPrefixOf_iff_prefix.mpr hprefix) (Bool.eq_false_iff.mp hapart.1)

end

/-- An explanation in which no name is found, whatever stands in front of it. -/
def Silent (s : String) : Prop :=
  ∀ front, '\x60' ∉ front → undefinedNameIn (front ++ s.toList) = none

theorem FitsPieces.undefinedNameIn_eq_none {pieces : List (List Mark)} {cs : List Char}
    (h : FitsPieces pieces cs) (hmute : isMute pieces = true) {front : List Char}
    (hfront : '\x60' ∉ front) : undefinedNameIn (front ++ cs) = none := by
  have hmore : ∀ {piece : List Mark} {cs : List Char}, Fits piece cs → ∀ {front : List Char},
      '\x60' ∉ front → '\x60' ∉ front ++ cs := fun hfits _ hfront hmem =>
    (List.mem_append.mp hmem).elim hfront hfits.not_mem
  induction h generalizing front with
  | last h => exact undefinedNameIn_of_not_mem (hmore h hfront)
  | @cons p pieces x rest hp hrest ih =>
      rw [← List.append_assoc]
      cases hrest with
      | last hq => exact undefinedNameIn_once (hmore hp hfront) hq.not_mem
      | @cons q pieces y rest hq hrest =>
          rw [undefinedNameIn_quote (hmore hp hfront) hq.not_mem]
          -- the check looks at three pieces at once: a name needs an opening in front of it,
          -- something between the quotes and a closing behind it
          have hpair : (mayOpen p = false ∨ y = [] ∨ ¬ closing <+: rest) ∧
              isMute (q :: pieces) = true := by
            have hempty : q.isEmpty = true → y = [] := by
              rw [List.isEmpty_iff]
              rintro rfl
              cases hq
              rfl
            cases hrest with
            | @last r z hr =>
                rw [isMute, Bool.and_eq_true, Bool.or_eq_true, Bool.or_eq_true, Bool.not_eq_true',
                  Bool.not_eq_true', or_assoc] at hmute
                exact ⟨hmute.1.imp_right fun h => h.imp hempty (not_closing_of_fits hr), hmute.2⟩
            | @cons r pieces z rest hr hrest =>
                rw [isMute, Bool.and_eq_true, Bool.or_eq_true, Bool.or_eq_true, Bool.not_eq_true',
                  Bool.not_eq_true', or_assoc] at hmute
                exact ⟨hmute.1.imp_right fun h => h.imp hempty fun h =>
                  not_closing_append (not_closing_of_fits hr h) (by decide) _,
                    hmute.2⟩
          have hnot : ¬ (opening <:+ front ++ x ∧ y ≠ [] ∧ closing <+: rest) := by
            rintro ⟨hopening, hne, hclosing⟩
            rcases hpair.1 with h | h | h
            · exact not_opening_of_fits hp h front hopening
            · exact hne h
            · exact h hclosing
          rw [if_neg hnot]
          exact ih hpair.2 List.not_mem_nil

/-- A quoted word behind words that open no name is passed over. -/
theorem undefinedNameIn_of_word {p words rest : List Char} {space word : String}
    (hp : '\x60' ∉ p) (hopens : ¬ opening <:+ p) (hspace : Unticked space) (hwords : '\x60' ∉ words)
    (hword : IsWord word) :
    undefinedNameIn (p ++ '\x60' :: (space.toList ++ words ++ word.toList ++ '\x60' :: rest)) =
      undefinedNameIn rest := by
  have hquoted : '\x60' ∉ space.toList ++ words ++ word.toList := by
    simp only [List.mem_append, not_or]
    exact ⟨⟨hspace, hwords⟩, hword.2.1⟩
  have hends : ¬ opening <:+ space.toList ++ words ++ word.toList := by
    have hfits : Fits [.word] (word.toList ++ []) := .word hword .nil
    rw [List.append_nil] at hfits
    exact not_opening_of_fits hfits (by decide) _
  rw [undefinedNameIn_tick hp, if_neg hopens, Option.none_or, undefinedNameIn_tick hquoted,
    if_neg hends, Option.none_or]

/-- An explanation is silent where its own words allow no name. -/
theorem silent_wording (phrases : List Phrase) (texts : List String)
    (hmute : isMute (piecesOf phrases) = true) (hsuits : Suits phrases texts) :
    Silent (wording (fill phrases texts)) := by
  intro front hfront
  rw [toList_wording]
  exact (fitsPieces_fill hsuits).undefinedNameIn_eq_none hmute hfront

theorem silent_of_unticked {s : String} (h : Unticked s) : Silent s := fun _ hfront =>
  undefinedNameIn_of_not_mem fun hmem => (List.mem_append.mp hmem).elim hfront h

theorem Silent.append {s t : String} (hs : Unticked s) (h : Silent t) : Silent (s ++ t) := by
  intro front hfront
  rw [String.toList_append, ← List.append_assoc]
  exact h _ fun hmem => (List.mem_append.mp hmem).elim hfront hs

/-- The explanation of a path without a value names the path. -/
theorem undefinedNameIn_undefined {path : String} (hpath : Unticked path) (hne : path ≠ "")
    (template : String) (resolved : Option String) {front : List Char} (hfront : '\x60' ∉ front) :
    undefinedNameIn (front ++ (Fault.undefined path template resolved).message.toList) =
      some path.toList := by
  have hbegin : "Variable \x60".toList = opening ++ ['\x60'] := by decide
  have hwords : "\x60 not found in context while rendering '" =
      "\x60" ++ (" not found in context" ++ " while rendering '") := by decide
  have hmiddle : "\x60 not found in context while rendering '".toList =
      '\x60' :: (closing ++ " while rendering '".toList) := by
    rw [hwords, String.toList_append, String.toList_append]
    rfl
  obtain ⟨parts, hparts⟩ : ∃ parts, (Fault.undefined path template resolved).message =
      wording ("Variable \x60" :: path :: "\x60 not found in context while rendering '" ::
        parts) := by
    cases resolved with
    | none => exact ⟨[template, "'"], rfl⟩
    | some resolved =>
        exact ⟨[template, "'", ": the evaluated version was \x60", resolved,
          "\x60. Maybe the index is out of bounds?"], rfl⟩
  obtain ⟨rest, hrest⟩ : ∃ rest, (Fault.undefined path template resolved).message.toList =
      opening ++ '\x60' :: (path.toList ++ '\x60' :: (closing ++ rest)) := by
    refine ⟨" while rendering '".toList ++ parts.flatMap String.toList, ?_⟩
    rw [hparts, toList_wording, List.flatMap_cons, List.flatMap_cons, List.flatMap_cons, hbegin,
      hmiddle, List.append_assoc, List.cons_append, List.nil_append, List.cons_append,
      List.append_assoc]
  have hfound : opening <:+ front ++ opening ∧ path.toList ≠ [] ∧ closing <+: closing ++ rest :=
    ⟨List.suffix_append _ _, mt String.toList_eq_nil_iff.mp hne, List.prefix_append _ _⟩
  rw [hrest, ← List.append_assoc, undefinedNameIn_quote ?_ hpath, if_pos hfound]
  exact fun hmem => (List.mem_append.mp hmem).elim hfront (by decide)

/-- Where the path is empty no name is found. -/
theorem silent_undefined_empty {template : String} (htemplate : Unticked template) :
    Silent (Fault.undefined "" template none).message :=
  silent_wording [.words "Variable \x60", .words "",
    .words "\x60 not found in context while rendering '", .quoted, .words "'"] [template]
    (by decide) ⟨htemplate, rfl⟩

end Scaffold.Template
