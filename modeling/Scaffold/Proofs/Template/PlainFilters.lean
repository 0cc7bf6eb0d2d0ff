import Scaffold.Proofs.Template.Blame

/-!
# Filters on plain values

Filters make plain values of plain values. Where a filter fails, its explanation names no
variable, whatever plain values it quotes.
-/

namespace Scaffold.Template

open Text

/-! ## Explanations -/

theorem silent_words (s : String) (hmute : isMute (piecesOf [.words s]) = true) : Silent s :=
  silent_wording [.words s] [] hmute rfl

section

variable {name argument expected : String} {v : Value}

theorem quiet_wrongValue (hname : IsWord name) (hv : v.Plain) (hexpected : Unticked expected) :
    (Fault.wrongValue name v expected).Quiet := by
  have hsilent := silent_wording
    [.words "Filter \x60", .word, .words "\x60 was called on an incorrect value: got \x60", .quoted,
      .words "\x60 but expected ", .quoted] [name, v.shown, expected] (by decide)
    ⟨hname, hv.shown, hexpected, rfl⟩
  exact ⟨hsilent, hsilent⟩

theorem quiet_wrongArgument (kind : Callable) (hname : IsWord name) (hargument : IsWord argument)
    (hv : v.Plain) (hexpected : Unticked expected) :
    (Fault.wrongArgument kind name argument v expected).Quiet := by
  have hsilent := silent_wording
    [.quoted, .words " \x60", .word, .words "\x60 received an incorrect type for arg \x60", .word,
      .words "\x60: got \x60", .quoted, .words "\x60 but expected ", .quoted]
    [kind.title, name, argument, v.shown, expected] (by decide)
    ⟨unticked_title kind, hname, hargument, hv.shown, hexpected, rfl⟩
  exact ⟨hsilent, hsilent⟩

theorem quiet_missingArgument (kind : Callable) (hname : IsWord name)
    (hargument : IsWord argument) : (Fault.missingArgument kind name argument).Quiet := by
  have hsilent := silent_wording
    [.quoted, .words " \x60", .word, .words "\x60 expected an arg called \x60", .word,
      .words "\x60"] [kind.title, name, argument] (by decide)
    ⟨unticked_title kind, hname, hargument, rfl⟩
  exact ⟨hsilent, hsilent⟩

end

/-! ## Arguments -/

namespace Filter

/-- A filter that makes plain values of plain values and fails quietly. -/
def Plain (f : Filter) : Prop :=
  ∀ v args, v.Plain → PlainEntries args → Meets Value.Plain Fault.Quiet (f v args)

section

variable {α : Type} {good : α → Prop} {filter name expected : String} {read : Value → Option α}
  {args : Args} {default : α}

/-- What is read of plain values is good. -/
def Reads (read : Value → Option α) (good : α → Prop) : Prop :=
  ∀ v a, v.Plain → read v = some a → good a

theorem reads_asText : Reads asText Unticked := by
  intro v s hv hs
  cases hv with
  | text h => exact Option.some.inj hs ▸ h
  | _ => exact absurd hs nofun

theorem reads_any (read : Value → Option α) : Reads read fun _ => True := fun _ _ _ _ => trivial

theorem meets_argument (hfilter : IsWord filter) (hname : IsWord name)
    (hexpected : Unticked expected) (hread : Reads read good) (hargs : PlainEntries args) :
    Meets (fun found : Option α => ∀ a ∈ found, good a) Fault.Quiet
      (argument filter name expected read args) := by
  unfold argument
  split
  · exact fun a ha => absurd ha nofun
  · next v hv =>
    have hplain := hargs.lookup hv
    split
    · next a ha => exact fun b hb => Option.some.inj hb ▸ hread v a hplain ha
    · exact quiet_wrongArgument .filter hfilter hname hplain hexpected

theorem meets_required (hfilter : IsWord filter) (hname : IsWord name)
    (hexpected : Unticked expected) (hread : Reads read good) (hargs : PlainEntries args) :
    Meets good Fault.Quiet (required filter name expected read args) := by
  refine (meets_argument hfilter hname hexpected hread hargs).bind fun found hfound => ?_
  cases found with
  | some a => exact hfound a rfl
  | none => exact quiet_missingArgument .filter hfilter hname

theorem meets_optional (hfilter : IsWord filter) (hname : IsWord name)
    (hexpected : Unticked expected) (hread : Reads read good) (hdefault : good default)
    (hargs : PlainEntries args) :
    Meets good Fault.Quiet (optional filter name expected read default args) := by
  refine (meets_argument hfilter hname hexpected hread hargs).bind fun found hfound => ?_
  cases found with
  | some a => exact hfound a rfl
  | none => exact hdefault

end

section

variable {name : String} {args : Args} {s : String} {items : List Value}

theorem plain_onText (hname : IsWord name) {f : String → Args → Except Fault Value}
    (hf : ∀ s args, Unticked s → PlainEntries args → Meets Value.Plain Fault.Quiet (f s args)) :
    (onText name f).Plain := by
  intro v args hv hargs
  unfold onText
  split
  · exact hf _ args (Value.plain_text.mp hv) hargs
  · exact quiet_wrongValue hname hv (by decide)

theorem plain_onTextAlone (hname : IsWord name) {f : String → Value}
    (hf : ∀ s, Unticked s → (f s).Plain) : (onTextAlone name f).Plain :=
  plain_onText hname fun s _ hs _ => hf s hs

theorem plain_onList (hname : IsWord name) {f : List Value → Args → Except Fault Value}
    (hf : ∀ items args, (∀ item ∈ items, item.Plain) → PlainEntries args →
      Meets Value.Plain Fault.Quiet (f items args)) : (onList name f).Plain := by
  intro v args hv hargs
  unfold onList
  split
  · exact hf _ args (Value.plain_list.mp hv) hargs
  · exact quiet_wrongValue hname hv (by decide)

/-! ## Texts -/

theorem unticked_unescape (hs : Unticked s) : Unticked (unescape s) :=
  (hs.replace (by decide)).replace (by decide)

theorem unticked_capitalize (hs : Unticked s) : Unticked (capitalize s) := by
  unfold capitalize
  split
  · exact unticked_empty
  · next c cs hcs =>
    have hmem : ∀ d ∈ c :: cs, d ≠ '\x60' := fun d hd heq => hs (hcs ▸ heq ▸ hd)
    refine unticked_append.mpr ⟨unticked_ofList.mpr fun hupper => ?_, ?_⟩
    · exact hmem c List.mem_cons_self (backtick_of_mem_upperChar hupper)
    · have hrest : Unticked (String.ofList cs) := unticked_ofList.mpr fun hc =>
        hmem _ (List.mem_cons_of_mem _ hc) rfl
      exact hrest.toLower

theorem backtick_of_mem_titleWords {fuel : Nat} {before : Option Char} {cs : List Char}
    (h : '\x60' ∈ titleWords fuel before cs) : '\x60' ∈ cs := by
  induction fuel generalizing before cs with
  | zero => exact h
  | succ fuel ih =>
      cases cs with
      | nil => exact h
      | cons c cs =>
          unfold titleWords at h
          extract_lets run n at h
          split at h
          · exact (List.mem_cons.mp h).elim (fun heq => heq ▸ List.mem_cons_self)
              fun h => List.mem_cons_of_mem _ (ih h)
          · rcases List.mem_append.mp h with h | h
            · rcases List.mem_append.mp h with h | h
              · exact backtick_of_mem_upperChar h ▸ List.mem_cons_self
              · exact List.mem_cons_of_mem _
                  (List.mem_of_mem_take (mem_of_mem_lowerChars isCaseless_backtick h))
            · exact List.mem_of_mem_drop (ih h)

theorem unticked_addSlashes (hs : Unticked s) : Unticked (addSlashes s) := by
  refine unticked_ofList.mpr fun hmem => ?_
  obtain ⟨c, hc, hmem⟩ := List.mem_flatMap.mp hmem
  have hne : c ≠ '\x60' := fun heq => hs (heq ▸ hc)
  split at hmem
  · rcases List.mem_cons.mp hmem with heq | hmem
    · exact absurd heq (by decide)
    · exact hne (List.mem_singleton.mp hmem).symm
  · exact hne (List.mem_singleton.mp hmem).symm

theorem unticked_escapeMarkup (hs : Unticked s) : Unticked (escapeMarkup s) := by
  refine unticked_join fun piece hpiece => ?_
  obtain ⟨c, hc, rfl⟩ := List.mem_map.mp hpiece
  repeat' split
  all_goals first
    | decide
    | exact unticked_singleton fun heq => hs (heq ▸ hc)

theorem unticked_escapeDocument (hs : Unticked s) : Unticked (escapeDocument s) := by
  refine unticked_join fun piece hpiece => ?_
  obtain ⟨c, hc, rfl⟩ := List.mem_map.mp hpiece
  repeat' split
  all_goals first
    | decide
    | exact unticked_singleton fun heq => hs (heq ▸ hc)

theorem behindComment_suffix {cs rest : List Char} (h : behindComment cs = some rest) :
    rest <:+ cs := by
  induction cs using behindComment.induct with
  | case1 => exact absurd h nofun
  | case2 cs =>
      obtain rfl := Option.some.inj h
      exact ⟨['-', '-', '>'], rfl⟩
  | case3 cs hend =>
      rw [behindComment, if_pos rfl] at h
      · exact absurd h nofun
      · exact hend
  | case4 c cs hend hline ih =>
      rw [behindComment, if_neg hline] at h
      · exact (ih h).trans (List.suffix_cons c cs)
      · exact hend

theorem behindBracket_suffix {cs rest : List Char} (h : behindBracket cs = some rest) :
    rest <:+ cs := by
  induction cs with
  | nil => exact absurd h nofun
  | cons c cs ih =>
      rw [behindBracket] at h
      split at h
      · exact Option.some.inj h ▸ List.suffix_cons c cs
      · exact (ih h).trans (List.suffix_cons c cs)

theorem behindTag_suffix {cs rest : List Char} (h : behindTag cs = some rest) : rest <:+ cs := by
  rcases Option.or_eq_some_iff.mp h with h | ⟨-, h⟩
  · obtain ⟨inside, hinside, hrest⟩ := Option.bind_eq_some_iff.mp h
    have hcs := stripPrefixChars_eq_some_iff.mp hinside
    exact (behindComment_suffix hrest).trans ⟨"!--".toList, hcs.symm⟩
  · exact behindBracket_suffix h

/-- What is left without tags was there before. -/
theorem stripTags_subset (fuel : Nat) (cs : List Char) : stripTags fuel cs ⊆ cs := by
  induction fuel generalizing cs with
  | zero => exact List.Subset.refl cs
  | succ fuel ih =>
      cases cs with
      | nil => exact List.Subset.refl []
      | cons c cs =>
          rw [stripTags]
          split
          · next rest hrest =>
            split at hrest
            · exact List.Subset.trans (ih rest)
                ((behindTag_suffix hrest).trans (List.suffix_cons c cs)).subset
            · exact absurd hrest nofun
          · exact List.cons_subset_cons c (ih cs)

theorem joinTags_subset (cs : List Char) : joinTags cs ⊆ cs := by
  induction cs using joinTags.induct with
  | case1 =>
      rw [joinTags]
      exact List.Subset.refl []
  | case2 c cs hblanks ih =>
      rw [joinTags, if_pos hblanks]
      exact List.cons_subset_cons c (List.Subset.trans ih (List.dropWhile_suffix _).subset)
  | case3 c cs hblanks ih =>
      rw [joinTags, if_neg hblanks]
      exact List.cons_subset_cons c ih

theorem meets_truncate (hs : Unticked s) (hargs : PlainEntries args) :
    Meets Value.Plain Fault.Quiet (truncate s args) := by
  refine (meets_optional (by decide) (by decide) (by decide) (reads_any _) trivial hargs).bind
    fun length _ => ?_
  refine (meets_optional (by decide) (by decide) (by decide) reads_asText (by decide) hargs).bind
    fun ending hending => ?_
  dsimp only
  split
  · exact .text hs
  · refine .text (unticked_append.mpr ⟨unticked_join fun piece hpiece => ?_, hending⟩)
    exact hs.of_mem_clusters piece (List.mem_of_mem_take hpiece)

theorem meets_indent (hs : Unticked s) (hargs : PlainEntries args) :
    Meets Value.Plain Fault.Quiet (indent s args) := by
  refine (meets_optional (by decide) (by decide) (by decide) reads_asText (by decide) hargs).bind
    fun space hspace => ?_
  refine (meets_optional (by decide) (by decide) (by decide) (reads_any _) trivial hargs).bind
    fun first _ => ?_
  refine (meets_optional (by decide) (by decide) (by decide) (reads_any _) trivial hargs).bind
    fun blank _ => ?_
  have hlines := hs.of_mem_lines
  dsimp only
  split
  · exact .text unticked_empty
  · next line more hmore =>
    rw [hmore] at hlines
    obtain ⟨hline, hlines⟩ := List.forall_mem_cons.mp hlines
    have hindented : ∀ (asked : Bool) (line : String), Unticked line →
        Unticked (if asked = true then space ++ line else line) := by
      intro asked line hline
      split
      · exact unticked_append.mpr ⟨hspace, hline⟩
      · exact hline
    refine .text (unticked_intercalate (by decide) (List.forall_mem_cons.mpr
      ⟨hindented first line hline, fun later hlater => ?_⟩))
    obtain ⟨line, hmem, rfl⟩ := List.mem_map.mp hlater
    exact hindented _ line (hlines line hmem)

theorem meets_trimCopies (hname : IsWord name) {trim : String → String → String}
    (htrim : ∀ pat s, Unticked s → Unticked (trim pat s)) (hs : Unticked s)
    (hargs : PlainEntries args) : Meets Value.Plain Fault.Quiet (trimCopies name trim s args) :=
  (meets_required hname (by decide) (by decide) (reads_any _) hargs).bind
    fun pat _ => .text (htrim (unescape pat) s hs)

theorem meets_replaceText (hs : Unticked s) (hargs : PlainEntries args) :
    Meets Value.Plain Fault.Quiet (replaceText s args) :=
  (meets_required (by decide) (by decide) (by decide) (reads_any _) hargs).bind fun _ _ =>
    (meets_required (by decide) (by decide) (by decide) reads_asText hargs).bind fun _ hto =>
      .text (hs.replace hto)

theorem meets_split (hs : Unticked s) (hargs : PlainEntries args) :
    Meets Value.Plain Fault.Quiet (split s args) :=
  (meets_required (by decide) (by decide) (by decide) (reads_any _) hargs).bind fun _ _ =>
    Value.plain_texts hs.of_mem_splitText

/-! ## Numbers -/

theorem plain_int : Plain int := by
  intro v args hv hargs
  unfold int
  refine (meets_optional (by decide) (by decide) (by decide) (reads_any _) trivial hargs).bind
    fun default _ => ?_
  refine (meets_optional (by decide) (by decide) (by decide) (reads_any _) trivial hargs).bind
    fun base _ => ?_
  cases v with
  | text s =>
      dsimp only
      split
      · exact .int _
      · exact .int _
  | int n => exact .int _
  | float x => exact .int _
  | _ => exact Fault.quiet_other (silent_words _ (by decide))

theorem plain_numberOrNull (x : Binary64) : (numberOrNull x).Plain := by
  unfold numberOrNull
  split
  · exact .float x
  · exact .null

theorem plain_float : Plain float := by
  intro v args hv hargs
  unfold float
  refine (meets_optional (by decide) (by decide) (by decide) (reads_any _) trivial hargs).bind
    fun default _ => ?_
  cases v with
  | text s =>
      dsimp only
      -- not reduced to its value, for the words are compared without regard to case
      generalize isNotFinite (Text.trim s) = word
      cases word with
      | true => exact .null
      | false => exact plain_numberOrNull _
  | int n => exact .float _
  | float x => exact .float x
  | _ => exact Fault.quiet_other (silent_words _ (by decide))

theorem plain_round : Plain round := by
  intro v args hv hargs
  unfold round
  split
  · exact quiet_wrongValue (by decide) hv (by decide)
  · next x hx =>
    refine (meets_optional (by decide) (by decide) (by decide) reads_asText (by decide) hargs).bind
      fun method hmethod => ?_
    refine (meets_optional (by decide) (by decide) (by decide) (reads_any _) trivial hargs).bind
      fun precision _ => ?_
    dsimp only
    split
    · exact plain_numberOrNull _
    · exact plain_numberOrNull _
    · exact plain_numberOrNull _
    · exact Fault.quiet_other (silent_wording
        [.words "Filter \x60round\x60 received an incorrect value for arg ",
          .words "\x60method\x60: got \x60", .quoted,
          .words "\x60, only common, ceil and floor are allowed"] [literal method] (by decide)
        ⟨hmethod.literal, rfl⟩)

theorem plain_abs : Plain abs := by
  intro v args hv hargs
  cases v with
  | int n => exact .int _
  | float x => exact .float _
  | _ => exact Fault.quiet_other (silent_words _ (by decide))

theorem plain_pluralize : Plain pluralize := by
  intro v args hv hargs
  unfold pluralize
  split
  · exact quiet_wrongValue (by decide) hv (by decide)
  · next x hx =>
    refine (meets_optional (by decide) (by decide) (by decide) reads_asText (by decide) hargs).bind
      fun plural hplural => ?_
    refine (meets_optional (by decide) (by decide) (by decide) reads_asText (by decide) hargs).bind
      fun singular hsingular => .text ?_
    split
    · exact hplural
    · exact hsingular

/-! ## Lists -/

theorem plain_itemOr (hitems : ∀ item ∈ items, item.Plain) (n : Nat) : (itemOr items n).Plain := by
  unfold itemOr
  cases hn : items[n]? with
  | none => exact .text unticked_empty
  | some v => exact hitems v (List.mem_of_getElem? hn)

theorem meets_nth (hitems : ∀ item ∈ items, item.Plain) (hargs : PlainEntries args) :
    Meets Value.Plain Fault.Quiet (nth items args) := by
  unfold nth
  split
  · exact .text unticked_empty
  · exact (meets_required (by decide) (by decide) (by decide) (reads_any _) hargs).bind
      fun n _ => plain_itemOr hitems n

theorem meets_join (hitems : ∀ item ∈ items, item.Plain) (hargs : PlainEntries args) :
    Meets Value.Plain Fault.Quiet (join items args) := by
  refine (meets_optional (by decide) (by decide) (by decide) reads_asText (by decide) hargs).bind
    fun sep hsep => .text (unticked_intercalate (unticked_unescape hsep) fun text htext => ?_)
  obtain ⟨item, hitem, rfl⟩ := List.mem_map.mp htext
  exact (hitems item hitem).print

theorem meets_noField {α : Type} {good : α → Prop} {field : String} (hfield : Unticked field) :
    Meets good Fault.Quiet (noField field) :=
  Fault.quiet_of_unticked (unticked_between (by decide) hfield (by decide))

theorem quiet_expected {before : String} (hbefore : Unticked before) {v : Value} (hv : v.Plain) :
    (Fault.other (before ++ v.shown)).Quiet :=
  Fault.quiet_of_unticked (unticked_append.mpr ⟨hbefore, hv.shown⟩)

theorem meets_sortKey (first : Value) {v : Value} (hv : v.Plain) :
    Meets (fun _ => True) Fault.Quiet (sortKey first v) := by
  unfold sortKey
  split
  all_goals first
    | trivial
    | exact quiet_expected (by decide) hv
    | exact Fault.quiet_of_unticked (by decide)
    | skip
  all_goals
    split
    · trivial
    · exact quiet_expected (by decide) hv

theorem meets_sort (hitems : ∀ item ∈ items, item.Plain) (hargs : PlainEntries args) :
    Meets Value.Plain Fault.Quiet (sort items args) := by
  unfold sort
  split
  · exact .list (List.forall_mem_nil _)
  · next head more =>
    refine (meets_optional (by decide) (by decide) (by decide) reads_asText (by decide) hargs).bind
      fun field hfield => ?_
    split
    · exact meets_noField hfield
    · next first _ =>
      refine (Meets.mapM fun item hitem => ?_).bind
        fun (keyed : List (SortKey × Value)) (hkeyed : ∀ entry ∈ keyed, entry.2.Plain) =>
          .list fun item hitem => ?_
      · have hplain := hitems item hitem
        split
        · exact meets_noField hfield
        · next v hv => exact (meets_sortKey first (hplain.part hv)).map fun _ _ => hplain
      · obtain ⟨entry, hentry, rfl⟩ := List.mem_map.mp hitem
        exact hkeyed entry (List.mem_mergeSort.mp hentry)

theorem meets_uniqueKey (caseSensitive : Bool) (first : Value) {v : Value} (hv : v.Plain) :
    Meets (fun _ => True) Fault.Quiet (uniqueKey caseSensitive first v) := by
  unfold uniqueKey
  split
  · trivial
  · split
    · trivial
    · exact quiet_expected (by decide) hv
  · exact quiet_expected (by decide) hv
  · trivial
  · exact Fault.quiet_of_unticked (by decide)

theorem meets_uniqueFrom (caseSensitive : Bool) (field : String) (first : Value)
    (hitems : ∀ item ∈ items, item.Plain) (seen : List Value) :
    Meets (fun kept : List Value => ∀ item ∈ kept, item.Plain) Fault.Quiet
      (uniqueFrom caseSensitive field first seen items) := by
  induction items generalizing seen with
  | nil => exact List.forall_mem_nil _
  | cons item items ih =>
      obtain ⟨hitem, hitems⟩ := List.forall_mem_cons.mp hitems
      unfold uniqueFrom
      split
      · exact ih hitems seen
      · next v hv =>
        refine (meets_uniqueKey caseSensitive first (hitem.part hv)).bind fun key _ => ?_
        split
        · exact ih hitems seen
        · exact (ih hitems (key :: seen)).bind fun kept hkept =>
            List.forall_mem_cons.mpr ⟨hitem, hkept⟩

theorem meets_unique (hitems : ∀ item ∈ items, item.Plain) (hargs : PlainEntries args) :
    Meets Value.Plain Fault.Quiet (unique items args) := by
  unfold unique
  split
  · exact .list (List.forall_mem_nil _)
  · next head more =>
    refine (meets_optional (by decide) (by decide) (by decide) (reads_any _) trivial hargs).bind
      fun caseSensitive _ => ?_
    refine (meets_optional (by decide) (by decide) (by decide) reads_asText (by decide) hargs).bind
      fun field hfield => ?_
    split
    · exact meets_noField hfield
    · exact Fault.quiet_of_unticked (by decide)
    · exact Fault.quiet_of_unticked (by decide)
    · exact Fault.quiet_of_unticked (by decide)
    · exact Fault.quiet_of_unticked (by decide)
    · exact (meets_uniqueFrom caseSensitive field _ hitems []).bind fun kept hkept => .list hkept

theorem meets_slice (hitems : ∀ item ∈ items, item.Plain) (hargs : PlainEntries args) :
    Meets Value.Plain Fault.Quiet (slice items args) := by
  unfold slice
  split
  · exact .list (List.forall_mem_nil _)
  · refine (meets_argument (by decide) (by decide) (by decide) (reads_any _) hargs).bind
      fun start _ => ?_
    refine (meets_argument (by decide) (by decide) (by decide) (reads_any _) hargs).bind
      fun stop _ => .list fun item hitem => ?_
    exact hitems item (List.mem_of_mem_take (List.mem_of_mem_drop hitem))

theorem meets_concat (hitems : ∀ item ∈ items, item.Plain) (hargs : PlainEntries args) :
    Meets Value.Plain Fault.Quiet (concat items args) := by
  unfold concat
  split
  · exact quiet_missingArgument .filter (by decide) (by decide)
  · next more hmore =>
    exact .list (List.forall_mem_append.mpr ⟨hitems, Value.plain_list.mp (hargs.lookup hmore)⟩)
  · next v _ hv =>
    exact .list (List.forall_mem_append.mpr
      ⟨hitems, List.forall_mem_singleton.mpr (hargs.lookup hv)⟩)

theorem meets_map (hitems : ∀ item ∈ items, item.Plain) (hargs : PlainEntries args) :
    Meets Value.Plain Fault.Quiet (map items args) := by
  unfold map
  split
  · exact .list (List.forall_mem_nil _)
  · refine (meets_required (by decide) (by decide) (by decide) (reads_any _) hargs).bind
      fun field _ => .list fun v hv => ?_
    obtain ⟨item, hitem, hpart⟩ := List.mem_filterMap.mp (List.mem_of_mem_filter hv)
    exact (hitems item hitem).part hpart

theorem meets_filter (hitems : ∀ item ∈ items, item.Plain) (hargs : PlainEntries args) :
    Meets Value.Plain Fault.Quiet (filter items args) := by
  unfold filter
  split
  · exact .list (List.forall_mem_nil _)
  · exact (meets_required (by decide) (by decide) (by decide) (reads_any _) hargs).bind
      fun field _ => .list fun item hitem => hitems item (List.mem_of_mem_filter hitem)

theorem unticked_groupKey {field : String} {item : Value} (hitem : item.Plain) {key : String}
    (hkey : groupKey field item = some key) : Unticked key := by
  unfold groupKey at hkey
  split at hkey
  · exact absurd hkey nofun
  · exact absurd hkey nofun
  · next s hs =>
    obtain rfl := Option.some.inj hkey
    exact Value.plain_text.mp (hitem.part hs)
  · next v _ hv =>
    obtain rfl := Option.some.inj hkey
    exact (hitem.part hv).shown

theorem meets_groupBy (hitems : ∀ item ∈ items, item.Plain) (hargs : PlainEntries args) :
    Meets Value.Plain Fault.Quiet (groupBy items args) := by
  unfold groupBy
  split
  · exact .object (List.forall_mem_nil _) (List.forall_mem_nil _)
  · refine (meets_argument (by decide) (by decide) (by decide) reads_asText hargs).bind
      fun found _ => ?_
    cases found with
    | none =>
        exact Fault.quiet_other (silent_words
          "The \x60group_by\x60 filter has to have an \x60attribute\x60 argument" (by decide))
    | some field =>
        have hkeyed : ∀ entry ∈ items.filterMap fun item => (groupKey field item).map (·, item),
            Unticked entry.1 ∧ entry.2.Plain := by
          intro entry hentry
          obtain ⟨item, hitem, hmap⟩ := List.mem_filterMap.mp hentry
          obtain ⟨key, hkey, rfl⟩ := Option.map_eq_some_iff.mp hmap
          exact ⟨unticked_groupKey (hitems item hitem) hkey, hitems item hitem⟩
        refine Value.plain_ofFields (fun group hgroup => ?_) fun group hgroup => ?_
        · obtain ⟨entry, hentry, rfl⟩ := List.mem_map.mp hgroup
          exact (hkeyed entry hentry).1
        · obtain ⟨entry, hentry, rfl⟩ := List.mem_map.mp hgroup
          refine .list fun item hitem => ?_
          obtain ⟨other, hother, rfl⟩ := List.mem_map.mp hitem
          exact (hkeyed other (List.mem_of_mem_filter hother)).2

/-! ## Several kinds of values -/

theorem plain_length : Plain length := by
  intro v args hv hargs
  cases v with
  | list items => exact .int _
  | object fields => exact .int _
  | text s => exact .int _
  | _ =>
      exact Fault.quiet_other (silent_wording
        [.words "Filter \x60length\x60 was used on a value that isn't an array, an ",
          .words "object, or a string."] [] (by decide) rfl)

theorem plain_reverse : Plain reverse := by
  intro v args hv hargs
  cases hv with
  | list h => exact .list fun item hitem => h item (List.mem_reverse.mp hitem)
  | text h => exact .text (unticked_ofList.mpr fun hmem => h (List.mem_reverse.mp hmem))
  | null => exact quiet_wrongValue (by decide) .null (by decide)
  | bool b => exact quiet_wrongValue (by decide) (.bool b) (by decide)
  | int n => exact quiet_wrongValue (by decide) (.int n) (by decide)
  | float x => exact quiet_wrongValue (by decide) (.float x) (by decide)
  | object hkeys hvalues => exact quiet_wrongValue (by decide) (.object hkeys hvalues) (by decide)

theorem plain_get : Plain get := by
  intro v args hv hargs
  unfold get
  refine (meets_required (by decide) (by decide) (by decide) reads_asText hargs).bind
    fun key hkey => ?_
  cases hv with
  | object hkeys hvalues =>
      dsimp only
      split
      · next found _ hfound => exact hvalues _ (mem_of_lookup hfound)
      · next default _ hdefault => exact hargs.lookup hdefault
      · exact Fault.quiet_other (silent_wording
          [.words "Filter \x60get\x60 tried to get key \x60", .quoted,
            .words "\x60 but it wasn't found"] [key] (by decide) ⟨hkey, rfl⟩)
  | _ => exact Fault.quiet_other (silent_words _ (by decide))

theorem plain_jsonEncode : Plain jsonEncode := by
  intro v args hv hargs
  unfold jsonEncode
  refine .text ?_
  split
  · exact hv.prettyAt 0
  · exact hv.shown

/-! ## All filters -/

/-- Every filter of the language makes plain values of plain values and fails quietly. -/
theorem plain_of_filter? {f : Filter} (h : filter? name = some f) : f.Plain := by
  have hall : ∀ entry ∈ all, entry.2.Plain := by
    -- one filter after the other, in the order of the table
    unfold all
    simp only [List.forall_mem_cons]
    refine ⟨plain_onTextAlone (by decide) fun s hs => .text hs.toUpper,
      plain_onTextAlone (by decide) fun s hs => .text hs.toLower,
      plain_onTextAlone (by decide) fun s hs => .text hs.trim,
      plain_onTextAlone (by decide) fun s hs => .text hs.trimStart,
      plain_onTextAlone (by decide) fun s hs => .text hs.trimEnd,
      plain_onText (by decide) fun s args => meets_trimCopies (by decide)
        fun pat s hs => hs.trimStartCopies pat,
      plain_onText (by decide) fun s args => meets_trimCopies (by decide)
        fun pat s hs => hs.trimEndCopies pat,
      plain_onTextAlone (by decide) fun s hs => .text (unticked_capitalize hs),
      plain_onTextAlone (by decide) fun s hs => .text (unticked_ofList.mpr fun hmem =>
        hs (backtick_of_mem_titleWords hmem)),
      plain_onText (by decide) fun s args => meets_truncate,
      plain_onTextAlone (by decide) fun s hs => .int _,
      plain_onTextAlone (by decide) fun s hs => .text (unticked_addSlashes hs),
      plain_onTextAlone (by decide) fun s hs => .text (unticked_escapeMarkup hs),
      plain_onTextAlone (by decide) fun s hs => .text (unticked_escapeDocument hs),
      plain_onTextAlone (by decide) fun s hs => .text (unticked_ofList.mpr fun hmem =>
        hs (stripTags_subset _ _ hmem)),
      plain_onTextAlone (by decide) fun s hs => .text (unticked_ofList.mpr fun hmem =>
        hs (joinTags_subset _ hmem)),
      plain_onTextAlone (by decide) fun s hs => .text
        ((hs.replace (by decide)).replace (by decide)),
      plain_onText (by decide) fun s args => meets_indent,
      plain_onText (by decide) fun s args => meets_replaceText,
      plain_onText (by decide) fun s args => meets_split,
      plain_int, plain_float, plain_round, plain_abs, plain_pluralize,
      plain_onList (by decide) fun items args hitems _ => plain_itemOr hitems 0,
      plain_onList (by decide) fun items args hitems _ => plain_itemOr hitems _,
      plain_onList (by decide) fun items args => meets_nth,
      plain_onList (by decide) fun items args => meets_join,
      plain_onList (by decide) fun items args => meets_sort,
      plain_onList (by decide) fun items args => meets_unique,
      plain_onList (by decide) fun items args => meets_slice,
      plain_onList (by decide) fun items args => meets_concat,
      plain_onList (by decide) fun items args => meets_map,
      plain_onList (by decide) fun items args => meets_filter,
      plain_onList (by decide) fun items args => meets_groupBy,
      plain_length, plain_reverse, plain_get, plain_jsonEncode,
      fun v args hv _ => .text hv.print, List.forall_mem_nil _⟩
  exact hall _ (mem_of_lookup h)

end

end Filter

/-- An engine whose further filters make plain values of plain values and fail quietly. -/
def Engine.Plain (engine : Engine) : Prop :=
  ∀ name f, engine.further name = some f → ∀ v given, v.Plain → Given.Plain given →
    Meets Value.Plain Fault.Quiet (f v given)

theorem PlainEntries.given {args : Args} (h : PlainEntries args) :
    Given.Plain (args.lookup ·) := fun _ _ hv => h.lookup hv

theorem Engine.Plain.filter {engine : Engine} (h : engine.Plain) {name : String} {f : Filter}
    (hf : engine.filter? name = some f) : f.Plain := by
  unfold Engine.filter? at hf
  split at hf
  · next g hg =>
      obtain rfl := Option.some.inj hf
      exact Filter.plain_of_filter? hg
  · obtain ⟨g, hg, rfl⟩ := Option.map_eq_some_iff.mp hf
    exact fun v args hv hargs => h name g hg v _ hv hargs.given

end Scaffold.Template
