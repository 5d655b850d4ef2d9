import Mathlib.Data.List.Nodup
import SessionControl.Proofs.Consistency

set_option autoImplicit false

/-! # Spelling requests

A request can be written as a command line in pieces: words of their own, and options with their
values. A grammar reads each piece for what it is (`Progress.words_piece`) and so all of them, in
whatever order they stand (`Grammar.match_words`); the pieces of a command give back the command.
What stands behind a bare `--` is kept as it is. -/

namespace SessionControl.CommandLine

/-! ## Pieces of a command line -/

/-- A piece of a command line. -/
inductive Piece
  | word (text : String)
  /-- An option with its value in a word of its own. -/
  | apart (long value : String)
  /-- An option with its value behind an equals sign. -/
  | attached (long value : String)
  | switch (long : String)
  deriving DecidableEq, Repr

namespace Piece

/-- The words of a piece. -/
def words : Piece → List String
  | word text => [text]
  | apart long value => ["--" ++ long, value]
  | attached long value => ["--" ++ long ++ "=" ++ value]
  | switch long => ["--" ++ long]

def word? : Piece → Option String
  | word text => some text
  | _ => none

/-- The long name of the option, if the piece is one. -/
def long? : Piece → Option String
  | word _ => none
  | apart long _ | attached long _ | switch long => some long

/-- The value, with the long name of its option. -/
def value? : Piece → Option (String × String)
  | apart long value | attached long value => some (long, value)
  | _ => none

end Piece

/-- What is found in pieces, and in words that are kept as they are, behind what has been found
    before. -/
def Matches.addAll (m : Matches) (pieces : List Piece) (behind : List String) : Matches where
  occurrences := m.occurrences ++ pieces.filterMap Piece.long?
  values := m.values ++ pieces.filterMap Piece.value?
  positionals := m.positionals ++ pieces.filterMap Piece.word? ++ behind

/-- Neither empty nor beginning with a dash. -/
def Plain (text : String) : Prop := text ≠ "" ∧ text.toList.head? ≠ some '-'

instance (text : String) : Decidable (Plain text) := inferInstanceAs (Decidable (_ ∧ _))

/-- The names that a grammar uses can be told from values and from each other. -/
structure Grammar.WellNamed (g : Grammar) : Prop where
  option : ∀ o ∈ g.options, Plain o.long ∧ '=' ∉ o.long.toList
  command : ∀ word ∈ g.commands, Plain word

/-- The grammar takes the piece for what it is. Words of their own are left to grammars without
    commands. -/
def Piece.Fits (g : Grammar) : Piece → Prop
  | word text => Plain text ∧ g.commands = []
  | apart long value =>
    Plain value ∧
      ∃ o, g.ofLong? long.toList = some o ∧ o.takesValue = true ∧ o.readable value = true
  | attached long value =>
    value.toList.head? ≠ some '=' ∧
      ∃ o, g.ofLong? long.toList = some o ∧ o.takesValue = true ∧ o.readable value = true
  | switch long => ∃ o, g.ofLong? long.toList = some o ∧ o.takesValue = false

theorem Plain.toList {text : String} (h : Plain text) :
    ∃ c cs, text.toList = c :: cs ∧ c ≠ '-' := by
  obtain ⟨hnonempty, hdash⟩ := h
  cases hcs : text.toList with
  | nil => exact absurd (String.toList_eq_nil_iff.mp hcs) hnonempty
  | cons c cs =>
      rw [hcs] at hdash
      exact ⟨c, cs, rfl, fun hc => hdash (congrArg some hc)⟩

theorem looksLikeOption_of_ne {c : Char} (h : c ≠ '-') (cs : List Char) :
    looksLikeOption (c :: cs) = false := by
  unfold looksLikeOption
  split
  · next heq => exact absurd (List.cons.inj heq).1 h
  · rfl

/-! ## Reading a piece -/

namespace Progress

variable {g : Grammar} {p : Progress}

/-- Nothing is awaited, and no bare `--` has been read. -/
def Between (p : Progress) : Prop := p.onlyPositionals = false ∧ ∀ o, p.pending ≠ .value o

theorem Between.mayBeCommand (hp : p.Between) : p.mayBeCommand = true := by
  obtain ⟨honly, hpending⟩ := hp
  unfold Progress.mayBeCommand
  rw [honly]
  split
  · next o ho => exact absurd ho (hpending o)
  · rfl

/-- What is read in a piece. -/
def take (p : Progress) : Piece → Progress
  | .word text => { p with found := p.found.addPositional text }
  | .apart long value | .attached long value =>
    { p with found := (p.found.addOccurrence long).addValue long value, pending := .settled }
  | .switch long => { p with found := p.found.addOccurrence long, pending := .nothing }

theorem Between.take (hp : p.Between) (piece : Piece) : (p.take piece).Between := by
  cases piece with
  | word text => exact hp
  | apart long value => exact ⟨hp.1, nofun⟩
  | attached long value => exact ⟨hp.1, nofun⟩
  | switch long => exact ⟨hp.1, nofun⟩

/-! ### Words of their own, and values -/

theorem word_plain (hp : p.Between) {text : String} (h : Plain text) :
    p.word g text = p.positionalWord g text := by
  obtain ⟨c, cs, hcs, hc⟩ := h.toList
  obtain ⟨honly, hpending⟩ := hp
  simp only [word, honly, hcs, Bool.false_eq_true, if_false]
  cases hp : p.pending with
  | nothing => simp [Pending.startsNew, looksLikeOption_of_ne hc]
  | value o => exact absurd hp (hpending o)
  | settled =>
      -- after a value even a word that is no option is looked at as if it were one
      simp only [Pending.startsNew, if_true]
      split
      · next heq => exact absurd (List.cons.inj heq).1 hc
      · next heq => exact absurd (List.cons.inj heq).1 hc
      · next heq => exact absurd (List.cons.inj heq).1 hc
      · rfl

theorem word_value (honly : p.onlyPositionals = false) {o : OptionSpec}
    (hpending : p.pending = .value o) {text : String} (h : Plain text) :
    p.word g text = .ok { p with found := p.found.addValue o.long text, pending := .settled } := by
  obtain ⟨c, cs, hcs, hc⟩ := h.toList
  simp [word, honly, hcs, hpending, Pending.startsNew, looksLikeOption_of_ne hc]

theorem positionalWord_of_room (hcommands : g.commands = [])
    (hroom : g.hasRoom p.found.positionals.length = true) (text : String) :
    p.positionalWord g text = .ok { p with found := p.found.addPositional text } := by
  simp [positionalWord, hcommands, resembles, hroom]

/-! ### Options -/

/-- A word behind two dashes is a name, perhaps with something behind an equals sign. -/
theorem word_long (hp : p.Between) {long w : String} {tail : List Char} {o : OptionSpec}
    (hlong : Plain long) (hequals : '=' ∉ long.toList) (ho : g.ofLong? long.toList = some o)
    (hw : w.toList = '-' :: '-' :: (long.toList ++ tail))
    (htail : tail.takeWhile (· ≠ '=') = []) :
    p.word g w =
      if o.takesValue then .ok (p.option o (if tail = [] then none else some tail))
      else .ok (p.switch o) := by
  obtain ⟨c, cs, hcs, hc⟩ := hlong.toList
  have hword : p.word g w = p.longWord g w.toList := by
    obtain ⟨honly, hpending⟩ := hp
    simp only [word, honly, hw, hcs, Bool.false_eq_true, if_false]
    cases hp : p.pending with
    | nothing => rfl
    | value o => exact absurd hp (hpending o)
    | settled => rfl
  have hbody : w.toList.dropWhile (· = '-') = long.toList ++ tail := by
    rw [hw, hcs]
    simp [hc]
  have hname : ∀ c ∈ long.toList, decide (c ≠ '=') = true := by
    intro c hmem
    exact decide_eq_true fun h => hequals (h ▸ hmem)
  have hrest : tail.dropWhile (· ≠ '=') = tail := by
    have hsplit := List.takeWhile_append_dropWhile (p := (· ≠ '=')) (l := tail)
    rwa [htail] at hsplit
  rw [hword]
  simp only [longWord, hbody, List.takeWhile_append_of_pos hname, htail, List.append_nil,
    List.dropWhile_append_of_pos hname, hrest, ho]

theorem long_of_ofLong? {long : String} {o : OptionSpec} (h : g.ofLong? long.toList = some o) :
    o.long = long := by
  have heq : o.long.toList = long.toList := by simpa using List.find?_some h
  exact String.toList_inj.mp heq

/-! ### Pieces -/

theorem words_cons {w : String} {rest : List String} {q : Progress}
    (hcommand : (p.mayBeCommand && g.commands.contains w) = false) (hw : p.word g w = .ok q) :
    p.words g (w :: rest) = q.words g rest := by
  simp only [words, hcommand, Bool.false_eq_true, if_false, hw]

theorem not_command_of_dashes (hg : g.WellNamed) {w : String} {cs : List Char}
    (hw : w.toList = '-' :: cs) : (p.mayBeCommand && g.commands.contains w) = false := by
  rw [Bool.and_eq_false_iff]
  right
  by_contra hcontains
  have hplain := hg.command w (by simpa using hcontains)
  exact hplain.2 (by rw [hw]; rfl)

/-- A piece is read for what it is, whatever stands behind it. -/
theorem words_piece (hg : g.WellNamed) (hp : p.Between) {piece : Piece} (hpiece : piece.Fits g)
    (hroom : piece.word? ≠ none → g.hasRoom p.found.positionals.length = true)
    (rest : List String) :
    p.words g (piece.words ++ rest) = (p.take piece).words g rest := by
  cases piece with
  | word text =>
      obtain ⟨hplain, hcommands⟩ := hpiece
      refine words_cons (by simp [hcommands]) ?_
      rw [word_plain hp hplain, positionalWord_of_room hcommands (hroom nofun) text]
      rfl
  | apart long value =>
      obtain ⟨hplain, o, ho, htakes, -⟩ := hpiece
      obtain ⟨hlong, hequals⟩ := hg.option o (mem_of_ofLong? ho)
      have hname := long_of_ofLong? ho
      subst hname
      have hw : ("--" ++ o.long).toList = '-' :: '-' :: (o.long.toList ++ []) := by simp
      have hword := word_long hp hlong hequals ho hw rfl
      rw [if_pos htakes, if_pos rfl] at hword
      -- the second word is the value, and is no command even if it is spelled like one
      have hawaited : (p.option o none).mayBeCommand = false := by simp [mayBeCommand, option]
      refine (words_cons (not_command_of_dashes hg hw) hword).trans (words_cons ?_ ?_)
      · rw [hawaited, Bool.false_and]
      · exact word_value (p := p.option o none) hp.1 rfl hplain
  | attached long value =>
      obtain ⟨hvalue, o, ho, htakes, -⟩ := hpiece
      obtain ⟨hlong, hequals⟩ := hg.option o (mem_of_ofLong? ho)
      have hname := long_of_ofLong? ho
      subst hname
      have hw : ("--" ++ o.long ++ "=" ++ value).toList =
          '-' :: '-' :: (o.long.toList ++ '=' :: value.toList) := by simp
      have hword := word_long hp hlong hequals ho hw (by simp)
      rw [if_pos htakes, if_neg nofun] at hword
      -- all equals signs in front of a value are dropped, so it must not begin with one
      have hdrop : value.toList.dropWhile (· = '=') = value.toList := by
        cases hcs : value.toList with
        | nil => rfl
        | cons c cs =>
            rw [hcs] at hvalue
            exact List.dropWhile_cons_of_neg (by simpa using hvalue)
      have htext : String.ofList (('=' :: value.toList).dropWhile (· = '=')) = value := by
        rw [List.dropWhile_cons_of_pos (by decide), hdrop, String.ofList_toList]
      refine (words_cons (not_command_of_dashes hg hw) hword).trans ?_
      simp only [option, htext]
      rfl
  | switch long =>
      obtain ⟨o, ho, htakes⟩ := hpiece
      obtain ⟨hlong, hequals⟩ := hg.option o (mem_of_ofLong? ho)
      have hname := long_of_ofLong? ho
      subst hname
      have hw : ("--" ++ o.long).toList = '-' :: '-' :: (o.long.toList ++ []) := by simp
      have hword := word_long hp hlong hequals ho hw rfl
      rw [if_neg (by simp [htakes])] at hword
      exact words_cons (not_command_of_dashes hg hw) hword

/-! ### All pieces -/

theorem filterMap_cons_toList {α β : Type} (f : α → Option β) (a : α) (as : List α) :
    (a :: as).filterMap f = (f a).toList ++ as.filterMap f := by
  rw [List.filterMap_cons]
  cases f a <;> rfl

theorem length_take (piece : Piece) :
    (p.take piece).found.positionals.length =
      p.found.positionals.length + piece.word?.toList.length := by
  cases piece <;> simp [take, Piece.word?, Matches.addPositional, Matches.addOccurrence,
    Matches.addValue]

theorem Between.takeAll (hp : p.Between) (pieces : List Piece) :
    (pieces.foldl Progress.take p).Between := by
  induction pieces generalizing p with
  | nil => exact hp
  | cons piece pieces ih => exact ih (hp.take piece)

/-- Pieces are read one after another, as long as there is room for their words. -/
theorem words_pieces (hg : g.WellNamed) (hp : p.Between) {pieces : List Piece}
    (hfits : ∀ piece ∈ pieces, piece.Fits g)
    (hroom : ∀ k, k < p.found.positionals.length + (pieces.filterMap Piece.word?).length →
      g.hasRoom k = true) (rest : List String) :
    p.words g (pieces.flatMap Piece.words ++ rest) =
      (pieces.foldl Progress.take p).words g rest := by
  -- the room is for the words that have been found and those that are still to come together
  induction pieces generalizing p with
  | nil => rfl
  | cons piece pieces ih =>
      rw [List.flatMap_cons, List.append_assoc, words_piece hg hp (hfits piece List.mem_cons_self)]
      · refine ih (hp.take piece) (fun q hq => hfits q (List.mem_cons_of_mem _ hq)) fun k hk => ?_
        rw [length_take] at hk
        refine hroom k ?_
        rw [filterMap_cons_toList, List.length_append]
        omega
      · intro hword
        obtain ⟨text, htext⟩ := Option.ne_none_iff_exists'.mp hword
        refine hroom _ ?_
        rw [List.filterMap_cons, htext, List.length_cons]
        omega

theorem found_takeAll (pieces : List Piece) :
    (pieces.foldl Progress.take p).found = p.found.addAll pieces [] := by
  induction pieces generalizing p with
  | nil => simp [Matches.addAll]
  | cons piece pieces ih =>
      rw [List.foldl_cons, ih]
      simp only [Matches.addAll, filterMap_cons_toList]
      cases piece <;>
        simp [take, Piece.long?, Piece.value?, Piece.word?, Matches.addPositional,
          Matches.addOccurrence, Matches.addValue]

/-- After a bare `--` all words are kept as they are. -/
theorem words_behind (hcommands : g.commands = []) (hmany : g.positional = .many)
    (honly : p.onlyPositionals = true) (behind : List String) :
    p.words g behind = .ok ({ p with found := p.found.addAll [] behind }, none) := by
  induction behind generalizing p with
  | nil => simp [words, Matches.addAll]
  | cons w behind ih =>
      have hroom : g.hasRoom p.found.positionals.length = true := by
        simp [Grammar.hasRoom, hmany]
      have hword : p.word g w = .ok { p with found := p.found.addPositional w } := by
        simp [word, honly, positionalWord_of_room hcommands hroom]
      refine ((words_cons (by simp [hcommands]) hword).trans (ih honly)).trans ?_
      simp [Matches.addPositional, Matches.addAll]

end Progress

/-! ## Matching pieces -/

/-- What is found in pieces and in words that are kept as they are. -/
def Matches.ofPieces (pieces : List Piece) (behind : List String) : Matches :=
  ({} : Matches).addAll pieces behind

/-- A bare `--` and the words behind it, if there are any. -/
def withDashes : List String → List String
  | [] => []
  | behind => "--" :: behind

/-- The pieces follow the grammar, and so do the words that are kept as they are. -/
structure Obeys (g : Grammar) (pieces : List Piece) (behind : List String) : Prop where
  fits : ∀ piece ∈ pieces, piece.Fits g
  once : (pieces.filterMap Piece.long?).Nodup
  exclusive : ∀ a b, (a, b) ∈ g.conflicts → a ∈ pieces.filterMap Piece.long? →
    b ∉ pieces.filterMap Piece.long?
  room : ∀ k, k < (pieces.filterMap Piece.word?).length → g.hasRoom k = true
  behind : behind ≠ [] → g.positional = .many
  required : g.positional = .required → pieces.filterMap Piece.word? ≠ []

namespace Obeys

variable {g : Grammar} {pieces pieces' : List Piece} {behind : List String}

/-- The order of the pieces does not matter. -/
theorem perm (h : Obeys g pieces behind) (hperm : pieces'.Perm pieces) :
    Obeys g pieces' behind := by
  have hlong := hperm.filterMap Piece.long?
  have hword := hperm.filterMap Piece.word?
  refine ⟨fun piece hpiece => h.fits piece (hperm.mem_iff.mp hpiece), hlong.nodup_iff.mpr h.once,
    fun a b hab ha hb => ?_, ?_, h.behind, fun hrequired hnone => ?_⟩
  · exact h.exclusive a b hab (hlong.mem_iff.mp ha) (hlong.mem_iff.mp hb)
  · rw [hword.length_eq]
    exact h.room
  · rw [hnone] at hword
    exact h.required hrequired hword.symm.eq_nil

/-- Where an option was read, all its values can be read, and there is one if it takes one. -/
theorem checkOption (h : Obeys g pieces behind) {long : String}
    (hlong : long ∈ pieces.filterMap Piece.long?) :
    (Matches.ofPieces pieces behind).checkOption g long = .ok () := by
  obtain ⟨piece, hpiece, hname⟩ := List.mem_filterMap.mp hlong
  obtain ⟨o, ho, hsome⟩ : ∃ o, g.ofLong? long.toList = some o ∧
      (o.takesValue = true → (Matches.ofPieces pieces behind).valuesOf long ≠ []) := by
    have hvalue : ∀ value, piece.value? = some (long, value) →
        (Matches.ofPieces pieces behind).valuesOf long ≠ [] := by
      intro value hvalue
      refine List.ne_nil_of_mem (a := value) (List.mem_map.mpr ⟨(long, value), ?_, rfl⟩)
      exact List.mem_filter.mpr ⟨List.mem_filterMap.mpr ⟨piece, hpiece, hvalue⟩, by simp⟩
    have hfits := h.fits piece hpiece
    cases piece with
    | word text => cases hname
    | apart _ value =>
        cases hname
        obtain ⟨-, o, ho, -⟩ := hfits
        exact ⟨o, ho, fun _ => hvalue value rfl⟩
    | attached _ value =>
        cases hname
        obtain ⟨-, o, ho, -⟩ := hfits
        exact ⟨o, ho, fun _ => hvalue value rfl⟩
    | switch _ =>
        cases hname
        obtain ⟨o, ho, hswitch⟩ := hfits
        exact ⟨o, ho, fun htakes => by simp [hswitch] at htakes⟩
  have hreadable : ∀ text ∈ (Matches.ofPieces pieces behind).valuesOf long,
      o.readable text = true := by
    intro text htext
    obtain ⟨⟨name, value⟩, hfiltered, rfl⟩ := List.mem_map.mp htext
    obtain ⟨hmem, heq⟩ := List.mem_filter.mp hfiltered
    have hname' : name = long := by simpa using heq
    subst hname'
    obtain ⟨piece', hpiece', hvalue⟩ := List.mem_filterMap.mp hmem
    have hfits := h.fits piece' hpiece'
    cases piece' <;> cases hvalue <;>
    · obtain ⟨-, o', ho', -, hread⟩ := hfits
      rw [ho] at ho'
      exact Option.some.inj ho' ▸ hread
  have honce : (Matches.ofPieces pieces behind).occurrences.count long ≤ 1 :=
    List.nodup_iff_count_le_one.mp h.once long
  simp only [Matches.checkOption, ho]
  rw [if_neg fun hnone => hsome hnone.1 hnone.2, if_neg (by simpa using hreadable),
    if_neg (Nat.not_lt.mpr honce)]

theorem checkOptions (h : Obeys g pieces behind) {longs : List String}
    (hlongs : ∀ long ∈ longs, long ∈ pieces.filterMap Piece.long?) :
    (Matches.ofPieces pieces behind).checkOptions g longs = .ok () := by
  induction longs with
  | nil => rfl
  | cons long longs ih =>
      rw [Matches.checkOptions, h.checkOption (hlongs long List.mem_cons_self)]
      exact ih fun other hother => hlongs other (List.mem_cons_of_mem _ hother)

/-- The check at the end has nothing to object. -/
theorem check (h : Obeys g pieces behind) {p : Progress} (hpending : ∀ o, p.pending ≠ .value o)
    (hfound : p.found = .ofPieces pieces behind) : p.check g = .ok () := by
  have hvalue : p.checkPending g = .ok () := by
    unfold Progress.checkPending
    split
    · next o ho => exact absurd ho (hpending o)
    · rfl
  have hconflicts : p.found.checkConflicts g = .ok () := by
    refine if_neg fun hany => ?_
    obtain ⟨⟨a, b⟩, hab, hboth⟩ := List.any_eq_true.mp hany
    rw [Bool.and_eq_true, Matches.has_iff, Matches.has_iff, hfound] at hboth
    exact h.exclusive a b hab hboth.1 hboth.2
  have hrequired : p.found.checkRequired g = .ok () := by
    refine if_neg fun hmissing => ?_
    rw [hfound] at hmissing
    exact h.required hmissing.1 (List.append_eq_nil_iff.mp hmissing.2).1
  have hoptions : p.found.checkOptions g p.found.occurrences = .ok () := by
    rw [hfound]
    exact h.checkOptions fun long hlong => hlong
  simp only [Progress.check, hvalue, hconflicts, hrequired, hoptions]
  rfl

end Obeys

theorem Progress.word_dashes {g : Grammar} {p : Progress} (hp : p.Between) :
    p.word g "--" = .ok { p with onlyPositionals := true } := by
  obtain ⟨honly, hpending⟩ := hp
  cases h : p.pending with
  | nothing => simp [word, honly, h, Pending.startsNew, looksLikeOption]
  | value o => exact absurd h (hpending o)
  | settled => simp [word, honly, h, Pending.startsNew]

/-- A command's grammar finds in pieces that follow it what they are made of, and keeps the words
    behind a bare `--` as they are. -/
theorem Grammar.match_words {g : Grammar} {pieces : List Piece} {behind : List String}
    (hg : g.WellNamed) (hcommands : g.commands = []) (h : Obeys g pieces behind) :
    g.match (pieces.flatMap Piece.words ++ withDashes behind) =
      .ok (Matches.ofPieces pieces behind) := by
  have hstart : ({} : Progress).Between := ⟨rfl, nofun⟩
  have hread := Progress.words_pieces hg hstart h.fits (by simpa using h.room) (withDashes behind)
  have hbetween := hstart.takeAll pieces
  have hfound := Progress.found_takeAll (p := {}) pieces
  generalize pieces.foldl Progress.take {} = p at hread hbetween hfound
  obtain ⟨q, hq, hpending, hqfound⟩ : ∃ q, p.words g (withDashes behind) = .ok (q, none) ∧
      (∀ o, q.pending ≠ .value o) ∧ q.found = Matches.ofPieces pieces behind := by
    cases behind with
    | nil => exact ⟨p, rfl, hbetween.2, hfound⟩
    | cons w ws =>
        have hdashes : p.words g ("--" :: w :: ws) = _ :=
          Progress.words_cons (by simp [hcommands]) (Progress.word_dashes hbetween)
        refine ⟨_, hdashes.trans (Progress.words_behind hcommands (h.behind nofun) rfl _),
          hbetween.2, ?_⟩
        simp [hfound, Matches.ofPieces, Matches.addAll]
  simp only [Grammar.match, hread, hq]
  show (do q.check g; return q.found) = _
  rw [h.check hpending hqfound, hqfound]
  rfl

end SessionControl.CommandLine
