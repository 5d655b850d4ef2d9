import SessionControl.Proofs.Spelling

set_option autoImplicit false

/-! # Requests as command lines

The command line of a request: the settings file, the command, and the pieces of the command in any
order. Numbers may be spelled by any text that is read as them. Such a command line is read as the
request it was made from (`read_spelled`). -/

namespace SessionControl.CommandLine

/-! ## The pieces of a command -/

/-- The command without its arguments. -/
def Command.verb : Command → Verb
  | status => .status
  | properties _ _ => .properties
  | lock => .lock
  | unlock => .unlock
  | inhibit _ _ _ => .inhibit
  | uninhibit _ => .uninhibit
  | stopInhibitors => .stopInhibitors
  | listInhibitors => .listInhibitors
  | backlight _ _ _ => .backlight
  | audioSink _ _ => .audioSink
  | monitor => .monitor
  | version => .version

/-- Texts for the numbers of a command. -/
structure NumberTexts where
  set : String
  inc : String

/-- The texts are read as the numbers that the command has. -/
def NumberTexts.Fit (t : NumberTexts) : Command → Prop
  | .backlight _ set inc =>
    (∀ v, set = some v → readUInt32? t.set = some v) ∧
      ∀ v, inc = some v → readInt32? t.inc = some v
  | .audioSink _ change =>
    (∀ v, change.set = some v → Binary64.ofText? t.set = some v) ∧
      ∀ v, change.inc = some v → Binary64.ofText? t.inc = some v
  | _ => True

/-- How a mute state is asked for. -/
def switchText (m : Bool) : String := if m then "on" else "off"

/-- The pieces of a command, whose numbers are spelled by the texts. -/
def Command.pieces (t : NumberTexts) : Command → List Piece
  | properties b a => b.toList.map (.apart "backlight") ++ a.toList.map (.apart "audiosink")
  | inhibit who why _ => who.toList.map (.apart "who") ++ why.toList.map (.apart "why")
  | uninhibit id => [.word id]
  | backlight name set inc =>
    name.toList.map .word ++ set.toList.map (fun _ => .attached "set" t.set) ++
      inc.toList.map fun _ => .attached "inc" t.inc
  | audioSink id change =>
    id.toList.map .word ++ change.set.toList.map (fun _ => .attached "set" t.set) ++
      change.inc.toList.map (fun _ => .attached "inc" t.inc) ++
      change.mute.toList.map (fun m => .apart "mute" (switchText m)) ++
      if change.toggleMute then [.switch "toggle-mute"] else []
  | _ => []

/-- Whether the command has an option. -/
def Command.has : Command → String → Bool
  | properties b _, "backlight" => b.isSome
  | properties _ a, "audiosink" => a.isSome
  | inhibit who _ _, "who" => who.isSome
  | inhibit _ why _, "why" => why.isSome
  | backlight _ set _, "set" => set.isSome
  | backlight _ _ inc, "inc" => inc.isSome
  | audioSink _ change, "set" => change.set.isSome
  | audioSink _ change, "inc" => change.inc.isSome
  | audioSink _ change, "mute" => change.mute.isSome
  | audioSink _ change, "toggle-mute" => change.toggleMute
  | _, _ => false

/-- The one word of a command besides its options. -/
def Command.word? : Command → Option String
  | uninhibit id => some id
  | backlight name _ _ => name
  | audioSink id _ => id
  | _ => none

/-- The words of a command that are kept as they are. -/
def Command.behind : Command → List String
  | inhibit _ _ words => words
  | _ => []

/-- The names, identifiers and other texts in the pieces of a command. -/
def Command.texts : Command → List String
  | properties b a => b.toList ++ a.toList
  | inhibit who why _ => who.toList ++ why.toList
  | uninhibit id => [id]
  | backlight name _ _ => name.toList
  | audioSink id _ => id.toList
  | _ => []

/-! ## Texts of numbers -/

theorem natural?_equals (cs : List Char) : Decimal.natural? ('=' :: cs) = none := rfl

theorem toList_of_equals {text : String} (h : text.toList.head? = some '=') :
    ∃ cs, text.toList = '=' :: cs := by
  cases hcs : text.toList with
  | nil => simp [hcs] at h
  | cons c cs =>
      rw [hcs] at h
      exact ⟨cs, congrArg (· :: cs) (Option.some.inj h)⟩

theorem not_equals_of_readUInt32? {text : String} {v : UInt32} (h : readUInt32? text = some v) :
    text.toList.head? ≠ some '=' := by
  intro hhead
  obtain ⟨cs, hcs⟩ := toList_of_equals hhead
  simp [readUInt32?, Decimal.unsigned?, hcs, natural?_equals] at h

theorem not_equals_of_readInt32? {text : String} {v : Int32} (h : readInt32? text = some v) :
    text.toList.head? ≠ some '=' := by
  intro hhead
  obtain ⟨cs, hcs⟩ := toList_of_equals hhead
  simp [readInt32?, Decimal.signed?, Decimal.splitSign, hcs, natural?_equals] at h

theorem not_equals_of_ofText? {text : String} {v : Binary64} (h : Binary64.ofText? text = some v) :
    text.toList.head? ≠ some '=' := by
  intro hhead
  obtain ⟨cs, hcs⟩ := toList_of_equals hhead
  have hword : ∀ w : String, w.toList.head? ≠ some '=' →
      String.ofList (('=' :: cs).map Char.toLower) ≠ w := by
    intro w hw heq
    rw [← heq, String.toList_ofList] at hw
    exact hw rfl
  have hsign : Decimal.splitSign ('=' :: cs) = (false, '=' :: cs) := rfl
  have hdecimal : Nearest.decimal? ('=' :: cs) = none := rfl
  simp only [Binary64.ofText?, hcs, hsign, hdecimal] at h
  rw [if_neg (not_or.mpr ⟨hword _ (by decide), hword _ (by decide)⟩),
    if_neg (hword _ (by decide))] at h
  cases h

/-! ## What the pieces of a command are read as -/

theorem eq_of_perm_of_length_le_one {α : Type} {as bs : List α} (h : as.Perm bs)
    (hlength : bs.length ≤ 1) : as = bs := by
  match bs, hlength with
  | [], _ => exact h.eq_nil
  | [b], _ => exact List.perm_singleton.mp h

namespace Matches

variable {pieces pieces' : List Piece} {behind : List String}

/-- An option has no more values than there are pieces with it. -/
theorem length_valuesOf_le (long : String) :
    ((ofPieces pieces behind).valuesOf long).length ≤
      (pieces.filterMap Piece.long?).count long := by
  rw [valuesOf, List.length_map]
  show ((pieces.filterMap Piece.value?).filter fun v => v.1 = long).length ≤ _
  induction pieces with
  | nil => exact Nat.le_refl 0
  | cons piece pieces ih =>
      have hpiece : (piece.value?.toList.filter fun v => v.1 = long).length ≤
          piece.long?.toList.count long := by
        cases piece with
        | word text => exact Nat.le_refl 0
        | apart name value => by_cases h : name = long <;> simp [Piece.value?, Piece.long?, h]
        | attached name value => by_cases h : name = long <;> simp [Piece.value?, Piece.long?, h]
        | switch name => exact Nat.zero_le _
      rw [Progress.filterMap_cons_toList, Progress.filterMap_cons_toList, List.filter_append,
        List.length_append, List.count_append]
      exact Nat.add_le_add hpiece ih

/-- The order of pieces with different options does not matter for their values. -/
theorem value?_perm (hperm : pieces'.Perm pieces) (honce : (pieces.filterMap Piece.long?).Nodup)
    (long : String) :
    (ofPieces pieces' behind).value? long = (ofPieces pieces behind).value? long := by
  have hvalues : ((ofPieces pieces' behind).valuesOf long).Perm
      ((ofPieces pieces behind).valuesOf long) :=
    ((hperm.filterMap Piece.value?).filter _).map _
  -- an option that stands once has one value at most, and that leaves no order to differ in
  refine congrArg List.head? (eq_of_perm_of_length_le_one hvalues ?_)
  exact Nat.le_trans (length_valuesOf_le long) (List.nodup_iff_count_le_one.mp honce long)

theorem has_perm (hperm : pieces'.Perm pieces) (long : String) :
    (ofPieces pieces' behind).has long = (ofPieces pieces behind).has long := by
  rw [Bool.eq_iff_iff, has_iff, has_iff]
  exact (hperm.filterMap Piece.long?).mem_iff

theorem positionals_perm (hperm : pieces'.Perm pieces)
    (hword : (pieces.filterMap Piece.word?).length ≤ 1) :
    (ofPieces pieces' behind).positionals = (ofPieces pieces behind).positionals :=
  congrArg (· ++ behind) (eq_of_perm_of_length_le_one (hperm.filterMap Piece.word?) hword)

end Matches

theorem Verb.command_congr {m m' : Matches} (hvalue : ∀ long, m.value? long = m'.value? long)
    (hhas : ∀ long, m.has long = m'.has long) (hpositionals : m.positionals = m'.positionals)
    (v : Verb) : v.command m = v.command m' := by
  cases v <;> simp only [Verb.command, hvalue, hhas, hpositionals]

theorem readSwitch?_switchText (m : Bool) : readSwitch? (switchText m) = some m := by
  cases m <;> rfl

/-- A text that stands where there is a value is read as the value. -/
theorem read_of_spelled {α : Type} {parse : String → Option α} {x : Option α} {text : String}
    (h : ∀ v, x = some v → parse text = some v) : ((x.map fun _ => text) >>= parse) = x := by
  cases x with
  | none => rfl
  | some v => exact h v rfl

/-- The pieces of a command ask for that command. -/
theorem Command.command_ofPieces {t : NumberTexts} {c : Command} (h : t.Fit c) :
    c.verb.command (.ofPieces (c.pieces t) c.behind) = c := by
  cases c with
  | properties b a => cases b <;> cases a <;> rfl
  | inhibit who why words => cases who <;> cases why <;> rfl
  | backlight name set inc =>
      have hfound : Verb.backlight.command
          (.ofPieces ((backlight name set inc).pieces t) []) =
            backlight name ((set.map fun _ => t.set) >>= readUInt32?)
              ((inc.map fun _ => t.inc) >>= readInt32?) := by
        cases name <;> cases set <;> cases inc <;> rfl
      rwa [read_of_spelled h.1, read_of_spelled h.2] at hfound
  | audioSink id change =>
      obtain ⟨set, inc, mute, toggleMute⟩ := change
      have hfound : Verb.audioSink.command
          (.ofPieces ((audioSink id ⟨set, inc, mute, toggleMute⟩).pieces t) []) =
            audioSink id
              { set := (set.map fun _ => t.set) >>= Binary64.ofText?
                inc := (inc.map fun _ => t.inc) >>= Binary64.ofText?
                mute := mute.map switchText >>= readSwitch?
                toggleMute } := by
        cases id <;> cases set <;> cases inc <;> cases mute <;> cases toggleMute <;> rfl
      have hmute : (mute.map switchText >>= readSwitch?) = mute := by
        cases mute with
        | none => rfl
        | some m => exact readSwitch?_switchText m
      rwa [read_of_spelled h.1, read_of_spelled h.2, hmute] at hfound
  | _ => rfl

/-! ## The pieces of a command follow its grammar -/

theorem Verb.wellNamed (v : Verb) : v.grammar.WellNamed := by
  cases v <;> exact ⟨by decide, nofun⟩

theorem Verb.commands_grammar (v : Verb) : v.grammar.commands = [] := by
  cases v <;> rfl

theorem outerGrammar_wellNamed : outerGrammar.WellNamed := ⟨by decide, by decide⟩

theorem Command.fits {t : NumberTexts} {c : Command} (hplain : ∀ text ∈ c.texts, Plain text)
    (hnumbers : t.Fit c) : ∀ piece ∈ c.pieces t, piece.Fits c.verb.grammar := by
  intro piece hpiece
  cases c with
  | properties b a =>
      simp only [pieces, List.mem_append, List.mem_map] at hpiece
      rcases hpiece with ⟨name, hname, rfl⟩ | ⟨id, hid, rfl⟩
      · exact ⟨hplain _ (List.mem_append_left _ hname), _, rfl, rfl, rfl⟩
      · exact ⟨hplain _ (List.mem_append_right _ hid), _, rfl, rfl, rfl⟩
  | inhibit who why words =>
      simp only [pieces, List.mem_append, List.mem_map] at hpiece
      rcases hpiece with ⟨who, hwho, rfl⟩ | ⟨why, hwhy, rfl⟩
      · exact ⟨hplain _ (List.mem_append_left _ hwho), _, rfl, rfl, rfl⟩
      · exact ⟨hplain _ (List.mem_append_right _ hwhy), _, rfl, rfl, rfl⟩
  | uninhibit id =>
      rw [List.mem_singleton.mp hpiece]
      exact ⟨hplain id List.mem_cons_self, rfl⟩
  | backlight name set inc =>
      simp only [pieces, List.mem_append, List.mem_map] at hpiece
      rcases hpiece with (⟨name, hname, rfl⟩ | ⟨v, hv, rfl⟩) | ⟨v, hv, rfl⟩
      · exact ⟨hplain _ hname, rfl⟩
      · have hread := hnumbers.1 v (Option.mem_toList.mp hv)
        exact ⟨not_equals_of_readUInt32? hread, _, rfl, rfl, Option.isSome_of_mem hread⟩
      · have hread := hnumbers.2 v (Option.mem_toList.mp hv)
        exact ⟨not_equals_of_readInt32? hread, _, rfl, rfl, Option.isSome_of_mem hread⟩
  | audioSink id change =>
      simp only [pieces, List.mem_append, List.mem_map] at hpiece
      rcases hpiece with (((⟨id, hid, rfl⟩ | ⟨v, hv, rfl⟩) | ⟨v, hv, rfl⟩) | ⟨m, -, rfl⟩) | htoggle
      · exact ⟨hplain _ hid, rfl⟩
      · have hread := hnumbers.1 v (Option.mem_toList.mp hv)
        exact ⟨not_equals_of_ofText? hread, _, rfl, rfl, Option.isSome_of_mem hread⟩
      · have hread := hnumbers.2 v (Option.mem_toList.mp hv)
        exact ⟨not_equals_of_ofText? hread, _, rfl, rfl, Option.isSome_of_mem hread⟩
      · have hplainSwitch : Plain (switchText m) := by cases m <;> decide
        exact ⟨hplainSwitch, _, rfl, rfl, Option.isSome_of_mem (readSwitch?_switchText m)⟩
      · split at htoggle
        · rw [List.mem_singleton.mp htoggle]
          exact ⟨_, rfl, rfl⟩
        · cases htoggle
  | _ => cases hpiece

/-- The options of the pieces are those of the grammar that the command has. -/
theorem Command.longs_pieces (t : NumberTexts) (c : Command) :
    (c.pieces t).filterMap Piece.long? =
      (c.verb.grammar.options.map OptionSpec.long).filter c.has := by
  cases c with
  | properties b a => cases b <;> cases a <;> rfl
  | inhibit who why words => cases who <;> cases why <;> rfl
  | backlight name set inc => cases name <;> cases set <;> cases inc <;> rfl
  | audioSink id change =>
      obtain ⟨set, inc, mute, toggleMute⟩ := change
      cases id <;> cases set <;> cases inc <;> cases mute <;> cases toggleMute <;> rfl
  | _ => rfl

/-- A consistent command does not have two options that exclude each other. -/
theorem Command.exclusive {c : Command} (h : c.Consistent) {a b : String}
    (hab : (a, b) ∈ c.verb.grammar.conflicts) : ¬(c.has a ∧ c.has b) := by
  cases c with
  | properties backlight audioSink =>
      cases List.mem_singleton.mp hab
      exact h
  | backlight name set inc =>
      cases List.mem_singleton.mp hab
      exact h
  | audioSink id change =>
      rcases List.mem_cons.mp hab with hab | hab
      · cases hab
        exact h.1
      · cases List.mem_singleton.mp hab
        exact h.2
  | _ => cases hab

theorem Verb.nodup_longs (v : Verb) : (v.grammar.options.map OptionSpec.long).Nodup := by
  cases v <;> decide

/-- A command has one word besides its options at most, and its grammar asks for no more. -/
theorem Command.words_pieces (t : NumberTexts) (c : Command) :
    (c.pieces t).filterMap Piece.word? = c.word?.toList := by
  cases c with
  | properties b a => cases b <;> cases a <;> rfl
  | inhibit who why words => cases who <;> cases why <;> rfl
  | backlight name set inc => cases name <;> cases set <;> cases inc <;> rfl
  | audioSink id change =>
      obtain ⟨set, inc, mute, toggleMute⟩ := change
      cases id <;> cases set <;> cases inc <;> cases mute <;> cases toggleMute <;> rfl
  | _ => rfl

theorem Command.obeys {t : NumberTexts} {c : Command} (hconsistent : c.Consistent)
    (hplain : ∀ text ∈ c.texts, Plain text) (hnumbers : t.Fit c) :
    Obeys c.verb.grammar (c.pieces t) c.behind where
  fits := c.fits hplain hnumbers
  once := by
    rw [c.longs_pieces]
    exact c.verb.nodup_longs.filter _
  exclusive a b hab ha hb := by
    rw [c.longs_pieces, List.mem_filter] at ha hb
    exact c.exclusive hconsistent hab ⟨ha.2, hb.2⟩
  room := by
    rw [c.words_pieces]
    intro k hk
    obtain rfl : k = 0 := by
      have hlength := Option.length_toList_le (o := c.word?)
      omega
    cases c <;> first | rfl | cases hk
  behind := by cases c <;> first | exact fun _ => rfl | exact fun h => absurd rfl h
  required := by
    rw [c.words_pieces]
    cases c <;> exact nofun

/-! ## Whole command lines -/

/-- What stands before the command. -/
def Request.front (r : Request) : List Piece := r.config.toList.map (.apart "config")

/-- The command line of a request whose command is spelled by the pieces. -/
def Request.spelled (r : Request) (pieces : List Piece) : List String :=
  r.front.flatMap Piece.words ++
    r.command.verb.word :: (pieces.flatMap Piece.words ++ withDashes r.command.behind)

theorem Request.front_obeys {r : Request} (hplain : ∀ path ∈ r.config, Plain path) :
    Obeys outerGrammar r.front [] where
  fits piece hpiece := by
    obtain ⟨path, hpath, rfl⟩ := List.mem_map.mp hpiece
    exact ⟨hplain path (Option.mem_toList.mp hpath), _, rfl, rfl, rfl⟩
  once := by
    unfold front
    cases r.config <;> simp [Piece.long?]
  exclusive a b hab := by cases hab
  room k hk := by
    unfold front at hk
    cases hconfig : r.config with
    | none =>
        rw [hconfig] at hk
        cases hk
    | some path =>
        rw [hconfig] at hk
        cases hk
  behind h := absurd rfl h
  required h := by cases h

theorem Verb.ofWord?_word (v : Verb) : Verb.ofWord? v.word = some v := by
  cases v <;> rfl

theorem Verb.word_mem (v : Verb) : v.word ∈ outerGrammar.commands := by
  cases v <;> decide

/-- The words behind a command are read as the command that they spell. -/
theorem readCommand_spelled {t : NumberTexts} {c : Command} {pieces : List Piece}
    (hconsistent : c.Consistent) (hplain : ∀ text ∈ c.texts, Plain text) (hnumbers : t.Fit c)
    (horder : pieces.Perm (c.pieces t)) :
    readCommand c.verb.word (pieces.flatMap Piece.words ++ withDashes c.behind) = .ok c := by
  have hobeys := c.obeys hconsistent hplain hnumbers
  have hmatch := Grammar.match_words c.verb.wellNamed c.verb.commands_grammar (hobeys.perm horder)
  have hlength : ((c.pieces t).filterMap Piece.word?).length ≤ 1 := by
    rw [c.words_pieces]
    exact Option.length_toList_le
  have hcommand : c.verb.command (.ofPieces pieces c.behind) = c :=
    calc c.verb.command (.ofPieces pieces c.behind)
        = c.verb.command (.ofPieces (c.pieces t) c.behind) :=
          Verb.command_congr (Matches.value?_perm horder hobeys.once) (Matches.has_perm horder)
            (Matches.positionals_perm horder hlength) c.verb
      _ = c := Command.command_ofPieces hnumbers
  simp only [readCommand, Verb.ofWord?_word, hmatch]
  exact congrArg Except.ok hcommand

/-- Reading undoes spelling: the command line of a request is read as the request, in whatever order
    the pieces of its command stand, by whatever texts its numbers are spelled, and whatever words
    it keeps behind a bare `--`. -/
theorem read_spelled {r : Request} {t : NumberTexts} {pieces : List Piece}
    (hconsistent : r.command.Consistent)
    (hplain : ∀ text ∈ r.config.toList ++ r.command.texts, Plain text)
    (hnumbers : t.Fit r.command) (horder : pieces.Perm (r.command.pieces t)) :
    read (r.spelled pieces) = .ok r := by
  have hfront := r.front_obeys fun path hpath =>
    hplain path (List.mem_append_left _ (Option.mem_toList.mpr hpath))
  have hcommand := readCommand_spelled hconsistent
    (fun text htext => hplain text (List.mem_append_right _ htext)) hnumbers horder
  have hstart : ({} : Progress).Between := ⟨rfl, nofun⟩
  -- first the settings file is read, then the command cuts off what is left to its own grammar
  have hread := Progress.words_pieces outerGrammar_wellNamed hstart hfront.fits
    (by simpa using hfront.room)
    (r.command.verb.word :: (pieces.flatMap Piece.words ++ withDashes r.command.behind))
  have hbetween := hstart.takeAll r.front
  have hfound : (r.front.foldl Progress.take {}).found = .ofPieces r.front [] :=
    Progress.found_takeAll r.front
  generalize r.front.foldl Progress.take {} = p at hread hbetween hfound
  have hcut : p.words outerGrammar
      (r.command.verb.word :: (pieces.flatMap Piece.words ++ withDashes r.command.behind)) =
        .ok (p, some (r.command.verb.word,
          pieces.flatMap Piece.words ++ withDashes r.command.behind)) := by
    simp only [Progress.words, hbetween.mayBeCommand, Bool.true_and,
      List.contains_iff_mem.mpr r.command.verb.word_mem, if_true]
  have hconfig : p.found.value? "config" = r.config := by
    rw [hfound]
    unfold Request.front
    cases r.config <;> rfl
  simp only [read, Request.spelled, hread, hcut]
  show (do
    let command ← readCommand r.command.verb.word _
    p.check outerGrammar
    return { config := p.found.value? "config", command }) = Except.ok r
  rw [hcommand, hfront.check hbetween.2 hfound, hconfig]
  rfl

/-- A sink is turned down a little and unmuted, with the mute state asked for first. -/
theorem read_spelled_quieter :
    let r : Request :=
      { config := some "lock"
        command := .audioSink (some "48") { inc := some ⟨0xbfb999999999999a⟩, mute := some false } }
    let t : NumberTexts := { set := "", inc := "-.1e0" }
    let pieces : List Piece := [.apart "mute" "off", .word "48", .attached "inc" "-.1e0"]
    r.command.Consistent ∧ (∀ text ∈ r.config.toList ++ r.command.texts, Plain text) ∧
      t.Fit r.command ∧ pieces.Perm (r.command.pieces t) ∧
      read ["--config", "lock", "audiosink", "--mute", "off", "48", "--inc=-.1e0"] = .ok r := by
  intro r t pieces
  have hconsistent : r.command.Consistent := ⟨nofun, nofun⟩
  have hplain : ∀ text ∈ r.config.toList ++ r.command.texts, Plain text := by decide
  have hnumber : Binary64.ofText? "-.1e0" = some ⟨0xbfb999999999999a⟩ := by decide +kernel
  have hnumbers : t.Fit r.command := by
    refine ⟨nofun, fun v hv => ?_⟩
    cases hv
    exact hnumber
  have horder : pieces.Perm (r.command.pieces t) := by decide
  exact ⟨hconsistent, hplain, hnumbers, horder, read_spelled hconsistent hplain hnumbers horder⟩

/-- Behind a bare `--` nothing is an option or a command. -/
example : read ["inhibit", "--who", "me", "--", "lock", "--", "", "-y"] =
    .ok ⟨none, .inhibit (some "me") none ["lock", "--", "", "-y"]⟩ := by rfl

end SessionControl.CommandLine
