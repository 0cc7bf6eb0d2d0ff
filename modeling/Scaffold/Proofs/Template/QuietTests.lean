import Scaffold.Proofs.Template.PlainFilters
import Scaffold.Template.Test

/-!
# Tests and functions on plain values

Where a test or a function fails on plain values, its explanation names no variable, not
even where a template throws a message of its own. Functions make plain values of plain
arguments.
-/

namespace Scaffold.Template

open Text

/-! ## Tests -/

namespace Test

/-- A test that fails quietly on plain values. -/
def Quiet (test : Test) : Prop :=
  ∀ v args, (∀ w ∈ v, w.Plain) → (∀ arg ∈ args, arg.Plain) →
    Meets (fun _ => True) Fault.Quiet (test v args)

section

variable {name s : String} {test : Test} {v : Value} {args : List Value}

/-- The explanations of tests name the test and say what was wrong. -/
theorem quiet_tester (hname : IsWord name) {complaint : String}
    (hmute : isMute (piecesOf [.words "Tester \x60", .word, .words complaint]) = true) :
    (Fault.other ("Tester \x60" ++ name ++ complaint)).Quiet :=
  Fault.quiet_other (silent_wording [.words "Tester \x60", .word, .words complaint] [name] hmute
    ⟨hname, rfl⟩)

theorem quiet_limited (hname : IsWord name) (most : Nat) (h : test.Quiet) :
    (limited name most test).Quiet := by
  intro v args hv hargs
  unfold limited
  split
  · split
    · exact quiet_tester hname (by decide)
    · refine Fault.quiet_other (silent_wording [.words "Tester \x60", .word,
        .words "\x60 was called with ", .quoted, .words " args, the max number is ", .quoted]
        [name, toString args.length, toString most] (by decide)
        ⟨hname, unticked_toString_nat _, unticked_toString_nat _, rfl⟩)
  · exact h v args hv hargs

theorem quiet_onValue (hname : IsWord name) (most : Nat)
    {test : Value → List Value → Except Fault Bool}
    (h : ∀ v args, v.Plain → (∀ arg ∈ args, arg.Plain) →
      Meets (fun _ => True) Fault.Quiet (test v args)) : (onValue name most test).Quiet := by
  refine quiet_limited hname most fun v args hv hargs => ?_
  cases v with
  | some v => exact h v args (hv v rfl) hargs
  | none => exact quiet_tester hname (by decide)

theorem quiet_property (hname : IsWord name) (holds : Value → Bool) :
    (property name holds).Quiet :=
  quiet_onValue hname 0 fun _ _ _ _ => trivial

theorem meets_textOf (hname : IsWord name) {place : String}
    (hmute : isMute (piecesOf [.words "Tester \x60", .word, .words "\x60 was called ",
      .words place, .words " that isn't a string"]) = true)
    {v : Option Value} (hv : ∀ w ∈ v, w.Plain) :
    Meets Unticked Fault.Quiet (textOf name place v) := by
  unfold textOf
  split
  · next s => exact Value.plain_text.mp (hv _ rfl)
  · exact Fault.quiet_other (silent_wording [.words "Tester \x60", .word, .words "\x60 was called ",
      .words place, .words " that isn't a string"] [name] hmute ⟨hname, rfl⟩)

theorem meets_isOdd (v : Value) : Meets (fun _ => True) Fault.Quiet (isOdd v) := by
  unfold isOdd
  split
  · trivial
  · exact Fault.quiet_other (silent_wording [.words "Tester \x60", .words "odd",
      .words "\x60 was called ", .words "on a variable", .words " that isn't a number"] []
      (by decide) rfl)

theorem meets_isDivisible (v : Value) (args : List Value) :
    Meets (fun _ => True) Fault.Quiet (isDivisible v args) := by
  unfold isDivisible
  split
  · trivial
  · exact Fault.quiet_other (silent_wording [.words "Tester \x60", .words "divisibleby",
      .words "\x60 was called ", .words "with a parameter", .words " that isn't a number"] []
      (by decide) rfl)
  · exact Fault.quiet_other (silent_wording [.words "Tester \x60", .words "divisibleby",
      .words "\x60 was called ", .words "on a variable", .words " that isn't a number"] []
      (by decide) rfl)

theorem plain_head? (hargs : ∀ arg ∈ args, arg.Plain) : ∀ w ∈ args.head?, w.Plain :=
  fun w hw => hargs w (List.mem_of_head? hw)

theorem quiet_onTexts (hname : IsWord name) {test : String → String → Except Fault Bool}
    (h : ∀ arg s, Unticked arg → Meets (fun _ => True) Fault.Quiet (test arg s)) :
    (onTexts name test).Quiet := by
  refine quiet_onValue hname 1 fun v args hv hargs => ?_
  refine (meets_textOf hname (by decide) fun w hw => Option.some.inj hw ▸ hv).bind
    fun s _ => ?_
  exact (meets_textOf hname (by decide) (plain_head? hargs)).bind
    fun arg harg => h arg s harg

theorem meets_isContaining (hargs : ∀ arg ∈ args, arg.Plain) :
    Meets (fun _ => True) Fault.Quiet (isContaining v args) := by
  unfold isContaining
  have hparameter : Meets Unticked Fault.Quiet
      (textOf "containing" "with a parameter" args.head?) :=
    meets_textOf (by decide) (by decide) (plain_head? hargs)
  split
  · exact hparameter.map fun _ _ => trivial
  · split
    · trivial
    · exact Fault.quiet_other (silent_words _ (by decide))
  · exact hparameter.map fun _ _ => trivial
  · exact Fault.quiet_other (silent_words _ (by decide))

theorem unticked_quotedLines (hs : Unticked s) : Unticked (Pattern.quotedLines s) := by
  unfold Pattern.quotedLines
  dsimp only
  split
  · exact unticked_between (by decide) hs (by decide)
  · refine unticked_join fun piece hpiece => ?_
    obtain ⟨⟨line, n⟩, hmem, rfl⟩ := List.mem_map.mp hpiece
    have hline := hs.of_mem_splitOn '\n' line (List.fst_mem_of_mem_zipIdx hmem)
    have hblanks : ∀ n, Unticked (String.ofList (List.replicate n ' ')) := fun n =>
      unticked_ofList.mpr fun hmem => absurd (List.eq_of_mem_replicate hmem) (by decide)
    exact unticked_between (unticked_between (hblanks _) (unticked_toString_nat n) (by decide))
      (hline.stripSuffix _) (by decide)

theorem unticked_patternFault {fault : Pattern.Fault} (hs : Unticked s)
    (h : Pattern.parse? s = .error fault) : Unticked fault.message := by
  have hfault : fault = .malformed s ∨ fault = .tooLarge := by
    unfold Pattern.parse? at h
    dsimp only at h
    repeat' split at h
    all_goals first
      | exact Or.inl (Except.error.inj h).symm
      | exact Or.inr (Except.error.inj h).symm
      | exact absurd h nofun
  rcases hfault with rfl | rfl
  · exact unticked_append.mpr ⟨by decide, unticked_quotedLines hs⟩
  · exact unticked_between (by decide) (unticked_toString_nat _) (by decide)

theorem meets_isMatching (arg s : String) (harg : Unticked arg) :
    Meets (fun _ => True) Fault.Quiet (isMatching arg s) := by
  unfold isMatching
  split
  · trivial
  · next fault hfault =>
    exact Fault.quiet_other (silent_wording
      [.words "Tester \x60matching\x60: Invalid regular expression: ", .quoted] [fault.message]
      (by decide) ⟨unticked_patternFault harg hfault, rfl⟩)

/-- Every test fails quietly on plain values. -/
theorem quiet_of_test? (h : test? name = some test) : test.Quiet := by
  have hall : ∀ entry ∈ all, entry.2.Quiet := by
    unfold all
    simp only [List.forall_mem_cons]
    refine ⟨quiet_limited (by decide) 0 fun _ _ _ _ => trivial,
      quiet_limited (by decide) 0 fun _ _ _ _ => trivial,
      quiet_onValue (by decide) 0 fun v _ _ _ => meets_isOdd v,
      quiet_onValue (by decide) 0 fun v _ _ _ => (meets_isOdd v).map fun _ _ => trivial,
      quiet_property (by decide) _, quiet_property (by decide) _,
      quiet_onValue (by decide) 1 fun v args _ _ => meets_isDivisible v args,
      quiet_property (by decide) _, quiet_property (by decide) _,
      quiet_onTexts (by decide) fun _ _ _ => trivial,
      quiet_onTexts (by decide) fun _ _ _ => trivial,
      quiet_onValue (by decide) 1 fun _ _ _ => meets_isContaining,
      quiet_onTexts (by decide) meets_isMatching, List.forall_mem_nil _⟩
  exact hall _ (mem_of_lookup h)

end

end Test

/-! ## Functions -/

namespace Function

section

variable {name : String} {args : Args}

theorem meets_natural (hname : IsWord name) (default : Option Nat) (hargs : PlainEntries args) :
    Meets (fun _ => True) Fault.Quiet (natural name default args) := by
  unfold natural
  split
  · split
    · trivial
    · exact quiet_missingArgument .function (by decide) hname
  · next v hv =>
    split
    · trivial
    · exact quiet_wrongArgument .function (by decide) hname (hargs.lookup hv) (by decide)

theorem plain_numbersFrom (step stop fuel n : Nat) :
    ∀ item ∈ numbersFrom step stop fuel n, item.Plain := by
  induction fuel generalizing n with
  | zero => exact List.forall_mem_nil _
  | succ fuel ih =>
      unfold numbersFrom
      split
      · exact List.forall_mem_cons.mpr ⟨.int _, ih _⟩
      · exact List.forall_mem_nil _

theorem meets_range (hargs : PlainEntries args) : Meets Value.Plain Fault.Quiet (range args) := by
  refine (meets_natural (by decide) _ hargs).bind fun start _ => ?_
  refine (meets_natural (by decide) _ hargs).bind fun step _ => ?_
  refine (meets_natural (by decide) _ hargs).bind fun stop _ => ?_
  dsimp only
  split
  · exact Fault.quiet_other (silent_wording
      [.words "Function \x60range\x60 was called with a \x60start\x60 argument greater ",
        .words "than the \x60end\x60 one"] [] (by decide) rfl)
  · split
    · exact Fault.quiet_other (silent_words _ (by decide))
    · exact .list (plain_numbersFrom _ _ _ _)

theorem meets_failing (hargs : PlainEntries args) :
    Meets Value.Plain Fault.Quiet (failing args) := by
  unfold failing
  split
  · exact quiet_missingArgument .function (by decide) (by decide)
  · next s hs =>
    have hsilent := silent_of_unticked (Value.plain_text.mp (hargs.lookup hs))
    exact ⟨hsilent, hsilent⟩
  · next v _ hv =>
    exact quiet_wrongArgument .function (by decide) (by decide) (hargs.lookup hv) (by decide)

/-- Every function makes plain values of plain arguments and fails quietly. -/
theorem meets_of_function? {f : Function} (h : function? name = some f)
    (hargs : PlainEntries args) : Meets Value.Plain Fault.Quiet (f args) := by
  have hall : ∀ entry ∈ all, Meets Value.Plain Fault.Quiet (entry.2 args) := by
    unfold all
    simp only [List.forall_mem_cons]
    exact ⟨meets_range hargs, meets_failing hargs, List.forall_mem_nil _⟩
  exact hall _ (mem_of_lookup h)

end

end Function

end Scaffold.Template
