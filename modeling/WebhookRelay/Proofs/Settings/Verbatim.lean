-- SUMMARY: What arrives of the text of a variable in a setting that holds text.
import WebhookRelay.Proofs.Settings.Precedence
import WebhookRelay.Proofs.Text.Decimal

/-!
# Texts from the environment

The text of a variable is read as a flag, an integer or a double before anything is known about the
setting that it is for, and a setting that holds text gets back what the value is written as.
`Arrives v t` tells the outcome of this without the reader, and `Verbatim v` which texts come
through unchanged. Any other text arrives changed, and two settings that were given different texts
may come out the same.

Nothing is asked of the file and of the variables in front of the one that gives the text, and of
the variables behind it only that none leads to the same place of the tree or to what this place is
a part of (`SetLast`). A variable that leads below that place is no exception: with it loading
fails.
-/

namespace WebhookRelay

open Settings

/-- A setting that holds text. -/
inductive TextSetting where
  | brokerUrl
  | exchange
  | queue
  | databaseUrl
  deriving DecidableEq, Repr

namespace TextSetting

/-- The setting among all settings. -/
def toSetting : TextSetting → Setting
  | brokerUrl => .brokerUrl
  | exchange => .exchange
  | queue => .queue
  | databaseUrl => .databaseUrl

/-- The text that the settings hold for it. -/
def get : TextSetting → Settings → String
  | brokerUrl, s => s.broker.url
  | exchange, s => s.broker.exchange
  | queue, s => s.broker.queue
  | databaseUrl, s => s.database.url

theorem text?_of_reads {root : Json} {s : Settings} {k : TextSetting}
    (h : Reads root k.toSetting (k.toSetting.get s)) {v : Json}
    (hv : leaf? root k.toSetting.table k.toSetting.key = some v) : text? v = some (k.get s) := by
  cases k <;> exact h v hv

end TextSetting

/-! ## Values of texts -/

/-- Whether a text is one of the words for flags, in either case. -/
def IsFlagWord (v : String) : Prop :=
  String.ofList (Text.lowerAscii v.toList) ∈ ["true", "false"]

/-- What a text that is given in a variable arrives as. -/
inductive Arrives (v : String) : String → Prop where
  | flag (word : IsFlagWord v) : Arrives v (String.ofList (Text.lowerAscii v.toList))
  | integer {n : Int} (writes : Decimal.WritesInteger v.toList n) (least : Decimal.int64Min ≤ n)
      (greatest : n ≤ Decimal.int64Max) : Arrives v (toString n)
  | double {x : Float} (whole : ¬ Decimal.IsInt64 v) (reads : Decimal.readFloat? v = some x) :
      Arrives v (Decimal.Layout.plain.render x)
  | text (word : ¬ IsFlagWord v) (number : ¬ Decimal.IsDouble v.toList) : Arrives v v

/-- Whether a text is what each of its readings is written as. -/
structure Verbatim (v : String) : Prop where
  flag : IsFlagWord v → String.ofList (Text.lowerAscii v.toList) = v
  integer : ∀ n, Decimal.WritesInteger v.toList n → Decimal.int64Min ≤ n →
    n ≤ Decimal.int64Max → toString n = v
  double : ∀ x, ¬ Decimal.IsInt64 v → Decimal.readFloat? v = some x →
    Decimal.Layout.plain.render x = v

section

variable {v t : String}

theorem toLower_of_isDigit {c : Char} (h : Decimal.IsDigit c) : c.toLower = c := by
  refine Char.toLower_eq_of_not_isUpper fun hupper => ?_
  have hle : c.toNat ≤ 57 := h.2
  have hge : 65 ≤ c.toNat := by
    simp only [Char.isUpper, decide_eq_true_eq] at hupper
    exact hupper.1
  omega

theorem IsFlagWord.exists_cons (h : IsFlagWord v) :
    ∃ c rest, v.toList = c :: rest ∧ (c.toLower = 't' ∨ c.toLower = 'f') := by
  unfold IsFlagWord at h
  cases hv : v.toList with
  | nil =>
    rw [hv] at h
    exact absurd h (by decide)
  | cons c rest =>
    rw [hv] at h
    have hname : ∀ name ∈ ["true", "false"], ∀ d ∈ name.toList.head?, d = 't' ∨ d = 'f' := by
      simp
    exact ⟨c, rest, rfl, hname _ h _ (by simp [Text.lowerAscii])⟩

/-- The words for flags are no numbers. -/
theorem IsFlagWord.not_isDouble (h : IsFlagWord v) : ¬ Decimal.IsDouble v.toList := by
  intro hdouble
  obtain ⟨c, rest, hv, hlower⟩ := h.exists_cons
  obtain ⟨_, _, heq, hfirst⟩ := hdouble.exists_cons
  cases hv.symm.trans heq
  rcases hfirst with hmark | hdigit | hletter
  · have hmarks : ∀ d ∈ ['+', '-', '.'], ¬ (d.toLower = 't' ∨ d.toLower = 'f') := by simp
    exact hmarks c hmark hlower
  · rw [toLower_of_isDigit hdigit] at hlower
    unfold Decimal.IsDigit at hdigit
    rcases hlower with rfl | rfl <;> (revert hdigit; decide)
  · rcases hlower with hlower | hlower <;>
      (rw [hlower] at hletter; revert hletter; decide)

theorem parsedValue_of_not_isFlagWord (h : ¬ IsFlagWord v) :
    parsedValue v = (Decimal.readInt64? v).elim
      ((Decimal.readFloat? v).elim (.string v) fun x => .number (.float x))
      fun n => .number (.integer n) := by
  obtain ⟨htrue, hfalse⟩ := not_or.1 fun hword => h (List.mem_pair.2 hword)
  simp only [parsedValue, htrue, hfalse, if_false]
  cases Decimal.readInt64? v <;> cases Decimal.readFloat? v <;> rfl

theorem exists_arrives (v : String) : ∃ t, Arrives v t := by
  by_cases word : IsFlagWord v
  · exact ⟨_, .flag word⟩
  · by_cases whole : Decimal.IsInt64 v
    · obtain ⟨n, writes, least, greatest⟩ := whole
      exact ⟨_, .integer writes least greatest⟩
    · cases hread : Decimal.readFloat? v with
      | none => exact ⟨_, .text word (Decimal.readFloat?_eq_none_iff.1 hread)⟩
      | some x => exact ⟨_, .double whole hread⟩

/-- What arrives is the text of the value that is read. -/
theorem Arrives.text?_parsedValue (h : Arrives v t) : text? (parsedValue v) = some t := by
  cases h with
  | flag word =>
    rcases List.mem_pair.1 word with htrue | hfalse
    · simp only [parsedValue, htrue, if_true, text?]
    · simp [parsedValue, hfalse, text?]
  | integer writes least greatest =>
    have hword : ¬ IsFlagWord v := fun word => word.not_isDouble writes.isDouble
    rw [parsedValue_of_not_isFlagWord hword,
      Decimal.readInt64?_eq_some_iff.2 ⟨writes, least, greatest⟩]
    rfl
  | double whole reads =>
    have hword : ¬ IsFlagWord v := fun word =>
      word.not_isDouble (Decimal.isSome_readFloat?_iff.1 (Option.isSome_of_eq_some reads))
    rw [parsedValue_of_not_isFlagWord hword, Decimal.readInt64?_eq_none_iff.2 whole, reads]
    rfl
  | text word number =>
    have whole : ¬ Decimal.IsInt64 v := by
      rintro ⟨n, writes, -⟩
      exact number writes.isDouble
    rw [parsedValue_of_not_isFlagWord word, Decimal.readInt64?_eq_none_iff.2 whole,
      Decimal.readFloat?_eq_none_iff.2 number]
    rfl

theorem text?_parsedValue_iff : text? (parsedValue v) = some t ↔ Arrives v t := by
  constructor
  · intro h
    obtain ⟨u, hu⟩ := exists_arrives v
    rwa [← Option.some.inj (hu.text?_parsedValue.symm.trans h)]
  · exact Arrives.text?_parsedValue

theorem Arrives.unique {u : String} (ht : Arrives v t) (hu : Arrives v u) : t = u :=
  Option.some.inj (ht.text?_parsedValue.symm.trans hu.text?_parsedValue)

/-- A text arrives unchanged exactly if each of its readings is written as it stands. -/
theorem arrives_self_iff : Arrives v v ↔ Verbatim v := by
  constructor
  · intro h
    constructor
    · exact fun word => (Arrives.flag word).unique h
    · exact fun n writes least greatest => (Arrives.integer writes least greatest).unique h
    · exact fun x whole reads => (Arrives.double whole reads).unique h
  · intro h
    obtain ⟨t, ht⟩ := exists_arrives v
    have heq : t = v := by
      cases ht with
      | flag word => exact h.flag word
      | integer writes least greatest => exact h.integer _ writes least greatest
      | double whole reads => exact h.double _ whole reads
      | text => rfl
    rwa [heq] at ht

/-- The first character of a text may tell that it is no flag and no number. -/
theorem verbatim_of_head
    (h : ∀ c ∈ v.toList.head?, c ∉ ['+', '-', '.'] ∧ ¬ Decimal.IsDigit c ∧
      c.toLower ∉ ['i', 'n', 't', 'f']) : Verbatim v := by
  refine arrives_self_iff.1 (.text ?word ?number)
  case word =>
    intro hword
    obtain ⟨c, rest, hv, hletter⟩ := hword.exists_cons
    have hc := (h c (by rw [hv]; rfl)).2.2
    rcases hletter with hletter | hletter <;> (rw [hletter] at hc; exact hc (by decide))
  case number =>
    intro hdouble
    obtain ⟨c, rest, hv, hfirst⟩ := hdouble.exists_cons
    obtain ⟨hmark, hdigit, hc⟩ := h c (by rw [hv]; rfl)
    rcases hfirst with hfirst | hfirst | hletter | hletter
    · exact hmark hfirst
    · exact hdigit hfirst
    · rw [hletter] at hc
      exact hc (by decide)
    · rw [hletter] at hc
      exact hc (by decide)

end

/-! ## Places in the tree -/

namespace Settings

/-- Whether a path leads to a section, to an item of it as a list, or to one key of it. -/
inductive Reaches (table key : String) : List PathStep → Prop where
  | table {t : String} (name : lowerKey t = table) : Reaches table key [.key t]
  | item {t : String} {i : Int} {rest : List PathStep} (name : lowerKey t = table) :
      Reaches table key (.key t :: .index i :: rest)
  | key {t f : String} (name : lowerKey t = table) (field : lowerKey f = key) :
      Reaches table key [.key t, .key f]

/-- The path that a name is taken for. -/
def steps (name : String) : List PathStep :=
  (path? name).getD [.key name]

/-- Whether a key of a section has a value, or one that is no text in its place. -/
def Pinned (root : Json) (table key : String) (v : Json) : Prop :=
  ∃ w, leaf? root table key = some w ∧ (w = v ∨ text? w = none)

section

variable {root v : Json} {table key : String}

theorem setName_eq_setPath (root : Json) (name : String) (value : Json) :
    setName root name value = setPath value (steps name) root := by
  unfold setName steps
  cases path? name with
  | none => rw [Option.getD_none, setPath]
  | some steps => rfl

theorem steps_cases (name : String) :
    (∃ rest, steps name = .key (front name) :: rest) ∨ steps name = [.key name] := by
  unfold steps
  cases hpath : path? name with
  | none => exact .inr rfl
  | some path =>
    obtain ⟨-, rest, -, -, rfl⟩ := path?_eq_some hpath
    exact .inl ⟨rest, rfl⟩

theorem exists_steps (name : String) : ∃ t rest, steps name = .key t :: rest := by
  rcases steps_cases name with ⟨rest, hsteps⟩ | hsteps
  · exact ⟨_, rest, hsteps⟩
  · exact ⟨_, [], hsteps⟩

theorem Reaches.lowerKey_eq {t : String} {rest : List PathStep}
    (h : Reaches table key (.key t :: rest)) : lowerKey t = table := by
  cases h <;> assumption

/-- What reaches a section begins with its name. -/
theorem Reaches.lowerKey_front {name : String} (h : Reaches table key (steps name))
    (htable : ∀ c ∈ table.toList, endsFront c = false) : lowerKey (front name) = table := by
  rcases steps_cases name with ⟨rest, hsteps⟩ | hsteps
  · rw [hsteps] at h
    exact h.lowerKey_eq
  · rw [hsteps] at h
    rw [front_eq_self_of_lowerKey htable h.lowerKey_eq, h.lowerKey_eq]

theorem leaf?_eq (root : Json) (table key : String) :
    leaf? root table key =
      Json.Members.find? key
        (tableOf ((Json.Members.find? table (tableOf root)).getD .null)) := by
  unfold leaf?
  split
  · next htable => rw [htable, Option.getD_some, tableOf]
  · next htable =>
    cases hsection : Json.Members.find? table (tableOf root) with
    | none => rfl
    | some w =>
      cases w with
      | object members => exact absurd hsection (htable members)
      | null | bool | number | string | array => rfl

/-- A path that leads through a key changes what stands there. -/
theorem find?_setPath_cons {t : String} (ht : lowerKey t = table) (root value : Json)
    (step : PathStep) (rest : List PathStep) :
    Json.Members.find? table (tableOf (setPath value (.key t :: step :: rest) root)) =
      some (setPath value (step :: rest)
        ((Json.Members.find? table (tableOf root)).getD .null)) := by
  subst ht
  rw [setPath, tableOf, Json.Members.find?_insert, if_pos rfl]
  simp

theorem leaf?_setPath_cons {t : String} (ht : lowerKey t = table) (root value : Json)
    (step : PathStep) (rest : List PathStep) :
    leaf? (setPath value (.key t :: step :: rest) root) table key =
      Json.Members.find? key (tableOf (setPath value (step :: rest)
        ((Json.Members.find? table (tableOf root)).getD .null))) := by
  rw [leaf?_eq, find?_setPath_cons ht, Option.getD_some]

/-- What a path leads through is a table or a list afterwards. -/
theorem text?_setPath_cons (value : Json) (step : PathStep) (rest : List PathStep) (root : Json) :
    text? (setPath value (step :: rest) root) = none := by
  cases step with
  | key name =>
    cases rest with
    | nil =>
      obtain ⟨members, hmembers⟩ := exists_setKey root name value
      rw [setPath, hmembers]
      rfl
    | cons =>
      rw [setPath]
      · rfl
      · simp
  | index place =>
    cases rest with
    | nil =>
      rw [setPath]
      rfl
    | cons =>
      rw [setPath]
      · rfl
      · simp

/-- A path of two keys gives a plain value to the key, whatever the section was before. -/
theorem leaf?_setPath_pair {t f : String} (ht : lowerKey t = table) (hf : lowerKey f = key)
    (hvalue : ∀ members, v ≠ .object members) :
    leaf? (setPath v [.key t, .key f] root) table key = some v := by
  subst hf
  rw [leaf?_setPath_cons ht, setPath]
  cases v with
  | object members => exact absurd rfl (hvalue members)
  | null | bool | number | string | array =>
    simp only [setKey, tableOf, Json.Members.find?_insert, if_true]

/-- A path that does not reach a key leaves its value there, or puts a table or a list in its
place. -/
theorem Pinned.setPath (h : Pinned root table key v) {t : String} {rest : List PathStep}
    (hsteps : ¬ Reaches table key (.key t :: rest)) (value : Json) :
    Pinned (setPath value (.key t :: rest) root) table key v := by
  obtain ⟨w, hw, hwv⟩ := h
  by_cases ht : lowerKey t = table
  · cases rest with
    | nil => exact absurd (.table ht) hsteps
    | cons step rest =>
      cases step with
      | index i => exact absurd (.item ht) hsteps
      | key f =>
        by_cases hf : lowerKey f = key
        · cases rest with
          | nil => exact absurd (.key ht hf) hsteps
          | cons step rest =>
            have hleaf := (leaf?_setPath_cons ht root value (.key f) (step :: rest)).trans
              (find?_setPath_cons hf ..)
            exact ⟨_, hleaf, .inr (text?_setPath_cons ..)⟩
        · refine ⟨w, ?_, hwv⟩
          rw [leaf?_setPath_cons ht, find?_setPath_of_ne hf, ← leaf?_eq, hw]
  · refine ⟨w, ?_, hwv⟩
    rw [leaf?_eq, find?_setPath_of_ne ht, ← leaf?_eq, hw]

end

end Settings

/-! ## Variables of texts -/

/-- Whether the name of a variable leads to a setting, or to what the setting is a part of. -/
def Setting.ReachedBy (scope name : String) (k : Setting) : Prop :=
  ∃ n, settingName? scope name = some n ∧ Reaches k.table k.key (steps n)

/-- Whether a text is given in the variable of a setting, and no variable behind reaches the
setting. One that names the section of the setting may stand before or behind in the process, which
has no order for the two: the list tells where. -/
def Setting.SetLast (scope : String) (environment : List (String × String)) (k : Setting)
    (v : String) : Prop :=
  ∃ front name back, environment = front ++ (name, v) :: back ∧
    lowerKey name = lowerKey (k.variableName scope) ∧ ∀ w ∈ back, ¬ k.ReachedBy scope w.1

/-- Whether settings are loaded from the variables of a scope, alone or over a file. -/
inductive LoadedFrom (scope : String) (environment : List (String × String)) (s : Settings) :
    Prop where
  | alone (loaded : load scope environment = .ok s)
  | overFile {files : FileTree} {path : String} (own : scope = defaultScope)
      (loaded : loadFile files path environment = .ok s)

section

variable {scope name v : String} {environment : List (String × String)} {k : Setting}

theorem settingName?_of_variable (h : lowerKey name = lowerKey (k.variableName scope)) :
    settingName? scope name = some (k.table ++ "." ++ k.key) := by
  rw [k.lowerKey_variableName] at h
  rw [settingName?_of_scope h, pointed_pair k.isWord_table k.isWord_key]

/-- Where variables name keys of sections, only those that name a setting reach it. -/
theorem Settings.NamesKeys.names_of_reachedBy (h : NamesKeys scope environment)
    {w : String × String} (hw : w ∈ environment) (hreached : k.ReachedBy scope w.1) :
    lowerKey w.1 = lowerKey (k.variableName scope) := by
  obtain ⟨n, hn, hreaches⟩ := hreached
  obtain ⟨rest, hrest⟩ : InScope scope w.1 := by
    by_contra hscope
    rw [settingName?_eq_none hscope] at hn
    cases hn
  rw [settingName?_of_scope hrest, Option.some_inj] at hn
  have hfront := hreaches.lowerKey_front k.isWord_table.not_endsFront
  subst hn
  have hprefix := front_pointed_prefix rest.toList
  rw [lowerKey_eq_self (a := w.1) fun c hc => by simp [hrest, hprefix.subset hc]] at hfront
  rw [hfront] at hprefix
  obtain ⟨t, f, ht, hf, rfl⟩ := h w hw rest hrest k hprefix
  rw [pointed_pair ht hf, steps, path?_pair ht hf, Option.getD_some] at hreaches
  cases hreaches with
  | key name field => exact (lowerKey_eq_variableName_iff hrest ht hf).2 ⟨name, field⟩

/-- The last variable that names a setting sets it last, where variables name keys of sections. -/
theorem Settings.NamesKeys.setLast (h : NamesKeys scope environment)
    (hv : k.textIn? scope environment = some v) : k.SetLast scope environment v := by
  obtain ⟨texts, htexts⟩ := List.getLast?_eq_some_iff.1 hv
  obtain ⟨front, rest, rfl, -, hlast⟩ := List.filterMap_eq_append_iff.1 htexts
  obtain ⟨between, ⟨name, text⟩, back, rfl, -, hname, hback⟩ :=
    List.filterMap_eq_cons_iff.1 hlast
  split_ifs at hname with hnames
  cases hname
  refine ⟨front ++ between, name, back, by simp, hnames, fun w hw hreached => ?_⟩
  have hw' : w ∈ front ++ (between ++ (name, text) :: back) := by simp [hw]
  have hnone := List.filterMap_eq_nil_iff.1 hback w hw
  rw [if_pos (h.names_of_reachedBy hw' hreached)] at hnone
  cases hnone

/-- The variable of a setting gives its value to the setting, whatever stands in the tree. -/
theorem Settings.pinned_setVariable (h : lowerKey name = lowerKey (k.variableName scope))
    (root : Json) :
    Pinned ((settingName? scope name).elim root fun n => setName root n (parsedValue v)) k.table
      k.key (parsedValue v) := by
  rw [settingName?_of_variable h, Option.elim_some, setName, path?_pair k.isWord_table k.isWord_key]
  exact ⟨_, leaf?_setPath_pair k.lowerKey_table k.lowerKey_key (parsedValue_ne_object v), .inl rfl⟩

/-- A variable that does not reach a setting takes no text from it for another. -/
theorem Settings.Pinned.setVariable {root w : Json} (h : Pinned root k.table k.key w)
    (hname : ¬ k.ReachedBy scope name) (value : Json) :
    Pinned ((settingName? scope name).elim root fun n => setName root n value) k.table k.key w := by
  cases hn : settingName? scope name with
  | none => exact h
  | some n =>
    obtain ⟨t, rest, hsteps⟩ := exists_steps n
    rw [Option.elim_some, setName_eq_setPath, hsteps]
    exact h.setPath (fun hreaches => hname ⟨n, hn, hsteps ▸ hreaches⟩) value

theorem Settings.Pinned.overlayEnvironment {root w : Json} (h : Pinned root k.table k.key w)
    (hspared : ∀ v ∈ environment, ¬ k.ReachedBy scope v.1) :
    Pinned (overlay root (environmentLayer scope environment)) k.table k.key w := by
  induction environment generalizing root with
  | nil => exact h
  | cons v environment ih =>
    obtain ⟨hv, hrest⟩ := List.forall_mem_cons.1 hspared
    rw [overlay_environmentLayer_cons]
    exact ih (h.setVariable hv _) hrest

theorem Setting.SetLast.pinned (h : k.SetLast scope environment v) (root : Json) :
    Pinned (overlay root (environmentLayer scope environment)) k.table k.key (parsedValue v) := by
  obtain ⟨front, name, back, rfl, hname, hback⟩ := h
  have hsplit : overlay root (environmentLayer scope (front ++ (name, v) :: back)) =
      overlay (overlay root (environmentLayer scope front))
        (environmentLayer scope ((name, v) :: back)) := by
    rw [environmentLayer, List.filterMap_append, overlay, List.foldl_append]
    rfl
  rw [hsplit, overlay_environmentLayer_cons]
  exact (pinned_setVariable hname _).overlayEnvironment hback

theorem ofTree_of_ofLayers {layers : List (List (String × Json))} {s : Settings}
    (h : ofLayers layers = .ok s) : ofTree (layers.foldl overlay (toTree {})) = .ok s := by
  unfold ofLayers at h
  cases hread : ofTree (layers.foldl overlay (toTree {})) with
  | error e =>
    rw [hread] at h
    cases h
  | ok read =>
    rw [hread] at h
    change (read.validate >>= fun _ => .ok read) = .ok s at h
    cases hchecked : read.validate with
    | error e =>
      rw [hchecked] at h
      cases h
    | ok =>
      rw [hchecked] at h
      exact h

/-- Whatever settings are loaded from, the variables come last. -/
theorem LoadedFrom.exists_tree {s : Settings} (h : LoadedFrom scope environment s) :
    ∃ root, ofTree (overlay root (environmentLayer scope environment)) = .ok s := by
  cases h with
  | alone loaded => exact ⟨_, ofTree_of_ofLayers loaded⟩
  | @overFile files path own loaded =>
    subst own
    cases hfile : fileLayer files path with
    | error e =>
      rw [loadFile, hfile] at loaded
      cases loaded
    | ok file =>
      rw [loadFile_eq hfile] at loaded
      exact ⟨_, ofTree_of_ofLayers loaded⟩

theorem LoadedFrom.arrives {s : Settings} (h : LoadedFrom scope environment s) {k : TextSetting}
    (hset : k.toSetting.SetLast scope environment v) : Arrives v (k.get s) := by
  obtain ⟨root, hroot⟩ := h.exists_tree
  have hreads := outcome_ofTree (overlay root (environmentLayer scope environment))
  rw [hroot] at hreads
  obtain ⟨w, hleaf, hw⟩ := hset.pinned root
  have htext := TextSetting.text?_of_reads (hreads k.toSetting) hleaf
  rcases hw with rfl | hw
  · exact text?_parsedValue_iff.1 htext
  · rw [hw] at htext
    cases htext

end

/-- What arrives of a text that is given for a setting, whatever else is given: it is one of four
texts, the given one exactly if each reading of it is written as it stands, and two texts are told
apart exactly if what they arrive as is not the same. -/
theorem Settings.text_arrives (k : TextSetting) {scope v : String}
    {environment : List (String × String)} {s : Settings}
    (hload : LoadedFrom scope environment s) (hset : k.toSetting.SetLast scope environment v) :
    Arrives v (k.get s) ∧ (k.get s = v ↔ Verbatim v) ∧
    ∀ {scope' v' : String} {environment' : List (String × String)} {s' : Settings},
      LoadedFrom scope' environment' s' → k.toSetting.SetLast scope' environment' v' →
        (k.get s = k.get s' ↔ ∃ t, Arrives v t ∧ Arrives v' t) := by
  have harrives := hload.arrives hset
  refine ⟨harrives, ?verbatim, ?apart⟩
  case verbatim =>
    rw [← arrives_self_iff]
    constructor
    · intro heq
      rwa [heq] at harrives
    · exact harrives.unique
  case apart =>
    intro scope' v' environment' s' hload' hset'
    have harrives' := hload'.arrives hset'
    constructor
    · intro heq
      exact ⟨_, harrives, heq ▸ harrives'⟩
    · rintro ⟨t, ht, ht'⟩
      rw [harrives.unique ht, harrives'.unique ht']

/-- A relay listens to the queue that it was given, and another relay to another one. -/
theorem Settings.text_arrives_of_green :
    ∃ s s', LoadedFrom defaultScope greenVariables s ∧
      Setting.queue.SetLast defaultScope greenVariables "green" ∧
      LoadedFrom defaultScope [("RELAY__AMQP__QUEUE", "blue")] s' ∧
      Setting.queue.SetLast defaultScope [("RELAY__AMQP__QUEUE", "blue")] "blue" ∧
      s.broker.queue = "green" ∧ s.broker.queue ≠ s'.broker.queue := by
  have hgreen : (load defaultScope greenVariables).toOption.map (fun _ => ()) = some () := by
    decide +kernel
  have hblue : (load defaultScope [("RELAY__AMQP__QUEUE", "blue")]).toOption.map (fun _ => ())
      = some () := by
    decide +kernel
  obtain ⟨s, hs, -⟩ := exists_of_toOption_map hgreen
  obtain ⟨s', hs', -⟩ := exists_of_toOption_map hblue
  have hset : Setting.queue.SetLast defaultScope greenVariables "green" :=
    namesKeys_greenVariables.setLast (by decide +kernel)
  have hset' : Setting.queue.SetLast defaultScope [("RELAY__AMQP__QUEUE", "blue")] "blue" :=
    ⟨[], _, [], rfl, by decide, nofun⟩
  have hverbatim : ∀ v ∈ ["green", "blue"], Verbatim v := by
    intro v hv
    rcases List.mem_pair.1 hv with rfl | rfl <;> exact verbatim_of_head (by simp [Decimal.IsDigit])
  obtain ⟨-, hqueue, hapart⟩ := Settings.text_arrives .queue (.alone hs) hset
  refine ⟨s, s', .alone hs, hset, .alone hs', hset', hqueue.2 (hverbatim _ (by simp)), ?_⟩
  intro heq
  obtain ⟨t, ht, ht'⟩ := (hapart (.alone hs') hset').1 heq
  have htexts := (ht.unique (arrives_self_iff.2 (hverbatim _ (by simp)))).symm.trans
    (ht'.unique (arrives_self_iff.2 (hverbatim _ (by simp))))
  revert htexts
  decide

/-- Two relays that are given different queues and listen to the same one. -/
theorem Settings.queues_collapse :
    ∃ s s', load defaultScope [("RELAY__AMQP__QUEUE", "007")] = .ok s ∧
      load defaultScope [("RELAY__AMQP__QUEUE", "7")] = .ok s' ∧
      s.broker.queue ≠ "007" ∧ s.broker.queue = s'.broker.queue := by
  let queue := fun v =>
    (load defaultScope [("RELAY__AMQP__QUEUE", v)]).toOption.map (·.broker.queue)
  have hseven : queue "7" = some "7" := by decide +kernel
  have hzeros : queue "007" = some "7" := by decide +kernel
  obtain ⟨s, hs, hqueue⟩ := exists_of_toOption_map hzeros
  obtain ⟨s', hs', hqueue'⟩ := exists_of_toOption_map hseven
  refine ⟨s, s', hs, hs', ?_, hqueue.trans hqueue'.symm⟩
  rw [hqueue]
  decide

end WebhookRelay
