-- SUMMARY: Which source a setting comes from: the environment before the file before the default.
import WebhookRelay.Proofs.Settings.Names
import WebhookRelay.Proofs.Settings.Reading
import WebhookRelay.Settings.Load

/-!
# Precedence

A setting has a value of its own in each source, which is told here without the tree: the text of
its variable, and what the tables of its section in a file have under its key. Loading takes the
value of the environment, else that of the file, else the default, for each setting by itself.

Two things could make a setting depend on the others. A variable may name a whole section or reach
into a list, so the variables are asked to name keys of sections (`NamesKeys`), and a file may have
something else than a table for a section, so its sections are asked to be tables
(`SectionsAreTables`). Nothing is asked of names that have to do with no section.
-/

namespace WebhookRelay

open Settings

/-! ## Sources -/

namespace Setting

/-- The variable of a setting in a scope. -/
def variableName (scope : String) (k : Setting) : String :=
  scope ++ "__" ++ k.table ++ "__" ++ k.key

/-- The texts of the variables that name a setting, in order. The case of a name does not matter. -/
def textsIn (scope : String) (environment : List (String × String)) (k : Setting) : List String :=
  environment.filterMap fun v =>
    if lowerKey v.1 = lowerKey (k.variableName scope) then some v.2 else none

/-- The text of the variable of a setting; of several the last one counts. -/
def textIn? (scope : String) (environment : List (String × String)) (k : Setting) :
    Option String :=
  (k.textsIn scope environment).getLast?

/-- The values under the key of a setting, in the tables that a file has for its section. -/
def valuesIn (file : List (String × Json)) (k : Setting) : List Json :=
  file.flatMap fun entry =>
    if lowerKey entry.1 = k.table then valuesFor k.key (tableOf entry.2) else []

/-- The value that a file has for a setting; of several the last one counts. A file has several only
when it has a key or a section in different cases, and which one is last in the process is then left
open: the list tells it. -/
def valueIn? (file : List (String × Json)) (k : Setting) : Option Json :=
  (k.valuesIn file).getLast?

/-- The value of a setting in the environment, else in the file. -/
def given? (scope : String) (environment : List (String × String)) (file : List (String × Json))
    (k : Setting) : Option Json :=
  ((k.textIn? scope environment).map parsedValue).or (k.valueIn? file)

theorem lowerKey_table (k : Setting) : lowerKey k.table = k.table := by
  cases k <;> decide

theorem lowerKey_key (k : Setting) : lowerKey k.key = k.key := by
  cases k <;> decide

theorem isWord_table (k : Setting) : IsWord k.table.toList := by
  cases k <;> decide

theorem isWord_key (k : Setting) : IsWord k.key.toList := by
  cases k <;> decide

theorem lowerKey_variableName (scope : String) (k : Setting) :
    lowerKey (k.variableName scope) = lowerKey scope ++ "__" ++ (k.table ++ "__" ++ k.key) := by
  have hunderscores : lowerKey "__" = "__" := by decide
  simp only [variableName, lowerKey_append, hunderscores, lowerKey_table, lowerKey_key,
    String.append_assoc]

/-- No conversion looks into a table. -/
theorem convert?_outline (k : Setting) (v : Json) : k.convert? (outline v) = k.convert? v := by
  cases v with
  | object => cases k <;> rfl
  | null | bool | number | string | array => rfl

theorem convert?_congr {v w : Json} (h : outline v = outline w) (k : Setting) :
    k.convert? v = k.convert? w := by
  rw [← convert?_outline, h, convert?_outline]

end Setting

namespace Settings

/-- Whether the variables of a scope that begin with the name of a section name keys of sections:
two words with two underscores between them. -/
def NamesKeys (scope : String) (environment : List (String × String)) : Prop :=
  ∀ v ∈ environment, ∀ rest, lowerKey v.1 = lowerKey scope ++ "__" ++ rest →
    ∀ k : Setting, k.table.toList <+: rest.toList →
      ∃ t f : String, IsWord t.toList ∧ IsWord f.toList ∧ rest = t ++ "__" ++ f

/-- Whether whatever a file has under the name of a section is a table. -/
def SectionsAreTables (file : List (String × Json)) : Prop :=
  ∀ entry ∈ file, ∀ k : Setting, lowerKey (front entry.1) = k.table →
    lowerKey entry.1 = k.table ∧ ∃ members, entry.2 = .object members

/-- The variables of settings do so. -/
theorem namesKeys_of_settings {scope : String} {environment : List (String × String)}
    (h : ∀ v ∈ environment, InScope scope v.1 →
      ∃ k : Setting, lowerKey v.1 = lowerKey (k.variableName scope)) :
    NamesKeys scope environment := by
  intro v hv rest hrest _ _
  obtain ⟨k, hk⟩ := h v hv ⟨rest, hrest⟩
  rw [k.lowerKey_variableName, hrest, String.append_right_inj] at hk
  exact ⟨k.table, k.key, k.isWord_table, k.isWord_key, hk⟩

section

variable {root w : Json} {scope : String} {environment : List (String × String)} {k : Setting}

/-! ## The layer of a file -/

theorem Stands.of_find?_eq {root' : Json} {table key : String} (h : Stands root table key w)
    (heq : Json.Members.find? table (tableOf root') = Json.Members.find? table (tableOf root)) :
    Stands root' table key w := by
  obtain ⟨members, htable, hmaps⟩ := h
  exact ⟨members, heq.trans htable, hmaps⟩

theorem Stands.setName_of_ne (h : Stands root k.table k.key w) {name : String}
    (hname : lowerKey (front name) ≠ k.table) (value : Json) :
    Stands (setName root name value) k.table k.key w :=
  h.of_find?_eq (find?_setName_of_ne k.isWord_table.not_endsFront hname root value)

theorem getLastD_append (front back : List Json) :
    (front ++ back).getLastD w = back.getLastD (front.getLastD w) := by
  rw [List.getLastD_eq_getLast?, List.getLast?_append, Option.getD_or,
    ← List.getLastD_eq_getLast?, ← List.getLastD_eq_getLast?]

/-- After a file a setting has the last of the values that the file has for it. -/
theorem Stands.overlayFile (h : Stands root k.table k.key w) {file : List (String × Json)}
    (hfile : SectionsAreTables file) :
    Stands (overlay root file) k.table k.key ((k.valuesIn file).getLastD w) := by
  induction file generalizing root w with
  | nil => exact h
  | cons entry file ih =>
    obtain ⟨name, value⟩ := entry
    obtain ⟨hentry, hrest⟩ := List.forall_mem_cons.1 hfile
    have hplain : lowerKey name = k.table → front name = name :=
      front_eq_self_of_lowerKey k.isWord_table.not_endsFront
    by_cases hfront : lowerKey (front name) = k.table
    · obtain ⟨hname, members, rfl⟩ := hentry k hfront
      have hset := h.setKey_table hname members
      rw [← setName_of_front_eq (hplain hname)] at hset
      have hvalues : k.valuesIn ((name, .object members) :: file)
          = valuesFor k.key members ++ k.valuesIn file := by
        rw [Setting.valuesIn, List.flatMap_cons, if_pos hname]
        rfl
      rw [hvalues, getLastD_append]
      exact ih hset hrest
    · have hname : lowerKey name ≠ k.table := by
        intro hname
        rw [hplain hname] at hfront
        exact hfront hname
      have hvalues : k.valuesIn ((name, value) :: file) = k.valuesIn file := by
        rw [Setting.valuesIn, List.flatMap_cons, if_neg hname]
        rfl
      rw [hvalues]
      exact ih (h.setName_of_ne hfront value) hrest

/-! ## The layer of the environment -/

/-- No text is read as a table. -/
theorem parsedValue_ne_object (text : String) (members : Json.Members) :
    parsedValue text ≠ .object members := by
  simp only [parsedValue]
  split
  · exact nofun
  · split
    · exact nofun
    · split <;> exact nofun

theorem isVoid_parsedValue (text : String) : isVoid (parsedValue text) = false := by
  cases h : parsedValue text with
  | object members => exact absurd h (parsedValue_ne_object text members)
  | null | bool | number | string | array => rfl

theorem overlay_environmentLayer_cons (scope name text : String)
    (environment : List (String × String)) (root : Json) :
    overlay root (environmentLayer scope ((name, text) :: environment)) =
      overlay ((settingName? scope name).elim root fun n => setName root n (parsedValue text))
        (environmentLayer scope environment) := by
  simp only [environmentLayer, List.filterMap_cons]
  cases settingName? scope name <;> rfl

/-- A variable that consists of a scope and two words is that of the setting with these words. -/
theorem lowerKey_eq_variableName_iff {name t f : String}
    (hname : lowerKey name = lowerKey scope ++ "__" ++ (t ++ "__" ++ f)) (ht : IsWord t.toList)
    (hf : IsWord f.toList) :
    lowerKey name = lowerKey (k.variableName scope) ↔
      lowerKey t = k.table ∧ lowerKey f = k.key := by
  have hlower : lowerKey t = t ∧ lowerKey f = f := by
    constructor
    all_goals
      refine lowerKey_eq_self (a := name) fun c hc => ?_
      simp [hname, hc]
  rw [k.lowerKey_variableName, hname, hlower.1, hlower.2]
  constructor
  · intro heq
    have hwords : t.toList ++ '_' :: '_' :: f.toList
        = k.table.toList ++ '_' :: '_' :: k.key.toList := by
      have hlists := congrArg String.toList heq
      simpa using hlists
    have hpoints := congrArg pointed hwords
    rw [pointed_append ht.2.2, pointed_append k.isWord_table.2.2, hf.pointed_eq_self,
      k.isWord_key.pointed_eq_self,
      List.append_cons_inj_of_notMem ht.not_mem_point hf.not_mem_point] at hpoints
    exact ⟨String.toList_inj.1 hpoints.1, String.toList_inj.1 hpoints.2.2⟩
  · rintro ⟨rfl, rfl⟩
    rfl

/-- A variable gives its value to the setting that it names, and to no other. -/
theorem Stands.setVariable (h : Stands root k.table k.key w) {name : String} {value : Json}
    (hvalue : isVoid value = false)
    (hname : ∀ rest, lowerKey name = lowerKey scope ++ "__" ++ rest →
      k.table.toList <+: rest.toList →
        ∃ t f : String, IsWord t.toList ∧ IsWord f.toList ∧ rest = t ++ "__" ++ f) :
    Stands ((settingName? scope name).elim root fun n => setName root n value) k.table k.key
      (if lowerKey name = lowerKey (k.variableName scope) then value else w) := by
  by_cases hscope : InScope scope name
  · obtain ⟨rest, hrest⟩ := hscope
    rw [settingName?_of_scope hrest, Option.elim_some]
    by_cases htable : k.table.toList <+: rest.toList
    · obtain ⟨t, f, ht, hf, rfl⟩ := hname rest hrest htable
      have hpair := h.setPath_pair t f value
      simp only [hvalue, and_true, ← lowerKey_eq_variableName_iff hrest ht hf] at hpair
      rw [pointed_pair ht hf, setName, path?_pair ht hf]
      exact hpair
    · -- What begins with no name of a section has no such front either.
      have hfront : lowerKey (front (String.ofList (pointed rest.toList))) ≠ k.table := by
        intro heq
        have hprefix := front_pointed_prefix rest.toList
        refine htable (heq ▸ ?_)
        rwa [lowerKey_eq_self (a := name) fun c hc => by simp [hrest, hprefix.subset hc]]
      rw [if_neg]
      · exact h.setName_of_ne hfront value
      · intro heq
        rw [k.lowerKey_variableName, hrest, String.append_right_inj] at heq
        exact htable ⟨'_' :: '_' :: k.key.toList, by simp [heq]⟩
  · rw [settingName?_eq_none hscope, Option.elim_none, if_neg]
    · exact h
    · exact fun heq => hscope ⟨_, heq.trans (k.lowerKey_variableName scope)⟩

/-- After the environment a setting has the value of the last variable that names it. -/
theorem Stands.overlayEnvironment (h : Stands root k.table k.key w)
    (hnames : NamesKeys scope environment) :
    Stands (overlay root (environmentLayer scope environment)) k.table k.key
      (((k.textsIn scope environment).map parsedValue).getLastD w) := by
  induction environment generalizing root w with
  | nil => exact h
  | cons v environment ih =>
    obtain ⟨name, text⟩ := v
    obtain ⟨hname, hrest⟩ := List.forall_mem_cons.1 hnames
    have hstep := ih
      (h.setVariable (isVoid_parsedValue text) fun rest heq => hname rest heq k) hrest
    have htexts : ((k.textsIn scope ((name, text) :: environment)).map parsedValue).getLastD w
        = ((k.textsIn scope environment).map parsedValue).getLastD
          (if lowerKey name = lowerKey (k.variableName scope) then parsedValue text else w) := by
      simp only [Setting.textsIn, List.filterMap_cons]
      split_ifs
      · rw [List.map_cons, List.getLastD_cons]
      · rfl
    rw [overlay_environmentLayer_cons, htexts]
    exact hstep

theorem environmentLayer_append_cons (front back : List (String × String))
    {stray : String × String} (h : ¬ InScope scope stray.1) :
    environmentLayer scope (front ++ stray :: back) = environmentLayer scope (front ++ back) := by
  simp [environmentLayer, settingName?_eq_none h]

/-! ## All layers -/

theorem stands_toTree (s : Settings) (k : Setting) : Stands s.toTree k.table k.key (write k s) := by
  obtain ⟨members, htable, hkey⟩ := exists_members (leaf?_toTree s k)
  exact ⟨members, htable, _, hkey, rfl⟩

/-- Under all layers a setting has a value that converts like the one that is given for it, or like
the default. -/
theorem exists_leaf?_of_layers {file : List (String × Json)} (hfile : SectionsAreTables file)
    (hnames : NamesKeys scope environment) (k : Setting) :
    ∃ v, leaf? ([file, environmentLayer scope environment].foldl overlay (toTree {})) k.table k.key
        = some v ∧
      k.convert? v = k.convert? ((k.given? scope environment file).getD (write k {})) := by
  have hstands := ((stands_toTree {} k).overlayFile hfile).overlayEnvironment hnames
  obtain ⟨members, htable, v, hkey, hv⟩ := hstands
  refine ⟨v, ?_, ?_⟩
  · rw [leaf?, List.foldl_cons, List.foldl_cons, List.foldl_nil, htable]
    exact hkey
  · rw [k.convert?_congr hv, Setting.given?, Setting.textIn?, Setting.valueIn?, Option.getD_or,
      ← List.getLast?_map, List.getLastD_eq_getLast?, List.getLastD_eq_getLast?]

end

/-- Whether settings are what the given values convert to, and the defaults where none is given. -/
structure Settles (given : Setting → Option Json) (s : Settings) : Prop where
  converted : ∀ k v, given k = some v → k.convert? v = some (k.get s)
  default : ∀ k, given k = none → k.get s = k.get {}

theorem Settles.get_eq {given : Setting → Option Json} {s : Settings} (h : Settles given s)
    {k : Setting} {a : k.Value} (hk : (given k).bind k.convert? = some a) : k.get s = a := by
  obtain ⟨v, hgiven, hv⟩ := Option.bind_eq_some_iff.1 hk
  exact Option.some.inj ((h.converted k v hgiven).symm.trans hv)

/-- What the given values decide about loading. -/
inductive Decides (given : Setting → Option Json) : Except SettingsError Settings → Prop where
  /-- Loading gives the settings that the values settle, and these pass the checks. -/
  | loaded {s : Settings} (settles : Settles given s) (checked : s.validate = .ok ()) :
      Decides given (.ok s)
  /-- A value does not convert, and the error names its setting. -/
  | unsuitable {k : Setting} {v : Json} (value : given k = some v) (convert : k.convert? v = none) :
      Decides given (.error (.unsuitable k.path))
  /-- The checks refuse the settings that the values settle. -/
  | refused {s : Settings} {e : SettingsError} (settles : Settles given s)
      (checked : s.validate = .error e) : Decides given (.error e)

theorem decides_ofLayers {scope : String} {environment : List (String × String)}
    {file : List (String × Json)} (hfile : SectionsAreTables file)
    (hnames : NamesKeys scope environment) :
    Decides (Setting.given? scope environment file)
      (ofLayers [file, environmentLayer scope environment]) := by
  choose values hvalues hconvert using exists_leaf?_of_layers hfile hnames
  unfold ofLayers
  generalize [file, environmentLayer scope environment].foldl overlay (toTree {}) = root
    at hvalues ⊢
  have hread := outcome_ofTree root
  cases hs : ofTree root with
  | error e =>
    rw [hs] at hread
    obtain ⟨k, hk⟩ | ⟨k, v, hv, hk, rfl⟩ := hread
    · rw [hvalues] at hk
      cases hk
    · rw [hvalues, Option.some_inj] at hv
      rw [← hv, hconvert] at hk
      cases hgiven : k.given? scope environment file with
      | none =>
        rw [hgiven, Option.getD_none, convert?_write] at hk
        cases hk
      | some v =>
        rw [hgiven, Option.getD_some] at hk
        exact .unsuitable hgiven hk
  | ok s =>
    rw [hs] at hread
    have hsettles : Settles (Setting.given? scope environment file) s := by
      constructor
      · intro k v hgiven
        rw [← hread k _ (hvalues k), hconvert, hgiven, Option.getD_some]
      · intro k hgiven
        have hk := hread k _ (hvalues k)
        rw [hconvert, hgiven, Option.getD_none, convert?_write] at hk
        exact (Option.some.inj hk).symm
    show Decides _ (s.validate >>= fun _ => .ok s)
    cases hchecked : s.validate with
    | ok => exact .loaded hsettles hchecked
    | error e => exact .refused hsettles hchecked

theorem loadFile_eq {files : FileTree} {path : String} {file : List (String × Json)}
    (h : fileLayer files path = .ok file) (environment : List (String × String)) :
    loadFile files path environment
      = ofLayers [file, environmentLayer defaultScope environment] := by
  rw [loadFile, h]
  rfl

/-- Every setting comes from the environment, else from the file, else from the defaults, whatever
the others are, and loading fails only over a value that does not convert or over the checks. The
same without a file. A variable outside of the scope does not matter. -/
theorem taken_by_precedence :
    (∀ scope environment, NamesKeys scope environment →
      Decides (Setting.given? scope environment []) (load scope environment)) ∧
    (∀ files path file environment, fileLayer files path = .ok file → SectionsAreTables file →
      NamesKeys defaultScope environment →
      Decides (Setting.given? defaultScope environment file) (loadFile files path environment)) ∧
    (∀ scope front back stray, ¬ InScope scope stray.1 →
      load scope (front ++ stray :: back) = load scope (front ++ back)) ∧
    ∀ files path front back stray, ¬ InScope defaultScope stray.1 →
      loadFile files path (front ++ stray :: back) = loadFile files path (front ++ back) := by
  refine ⟨?environment, ?file, ?stray, ?strayFile⟩
  case environment =>
    intro scope environment hnames
    have hempty : SectionsAreTables [] := nofun
    exact decides_ofLayers hempty hnames
  case file =>
    intro files path file environment hfound hfile hnames
    rw [loadFile_eq hfound]
    exact decides_ofLayers hfile hnames
  case stray =>
    intro scope front back stray hstray
    rw [load, environmentLayer_append_cons front back hstray]
    rfl
  case strayFile =>
    intro files path front back stray hstray
    simp only [loadFile, environmentLayer_append_cons front back hstray]

/-- A file with two settings of the broker. -/
def blueFiles : FileTree := fun path =>
  if path = "relay.toml" then some (.file "[amqp]\nexchange = \"blue\"\nqueue = 5\n".toUTF8)
  else none

/-- One of them is set by a variable too, and so is a setting that the file does not have. -/
def greenVariables : List (String × String) :=
  [("RELAY__AMQP__QUEUE", "green"), ("relay__http__timeout_ms", "2.5")]

theorem exists_of_toOption_map {ε α β : Type} {x : Except ε α} {f : α → β} {b : β}
    (h : x.toOption.map f = some b) : ∃ a, x = .ok a ∧ f a = b := by
  cases x with
  | error e => cases h
  | ok a => exact ⟨a, rfl, Option.some.inj h⟩

/-- Entries with plain names and tables that are not empty are sections that are tables. -/
theorem sectionsAreTables_of_all {file : List (String × Json)}
    (h : (file.all fun entry => front entry.1 == entry.1 && !(tableOf entry.2).isEmpty) = true) :
    SectionsAreTables file := by
  intro entry hentry k hfront
  have hplain := List.all_eq_true.1 h entry hentry
  rw [Bool.and_eq_true, beq_iff_eq] at hplain
  refine ⟨hplain.1 ▸ hfront, ?_⟩
  cases hvalue : entry.2 with
  | object members => exact ⟨members, rfl⟩
  | null | bool | number | string | array =>
    rw [hvalue] at hplain
    cases hplain.2

theorem namesKeys_greenVariables : NamesKeys defaultScope greenVariables := by
  refine namesKeys_of_settings fun v hv _ => ?_
  rw [greenVariables, List.mem_pair] at hv
  rcases hv with rfl | rfl
  · exact ⟨.queue, by decide⟩
  · exact ⟨.timeout, by decide⟩

theorem not_inScope_path : ¬ InScope defaultScope "PATH" := by
  rintro ⟨rest, hrest⟩
  have hnone : settingName? defaultScope "PATH" = none := by decide +kernel
  rw [settingName?_of_scope hrest] at hnone
  cases hnone

/-- The queue comes from the environment, the exchange from the file, the timeout from the
environment and rounded, the rest from the defaults, and a variable of others does not matter. -/
theorem taken_by_precedence_of_blue :
    ∃ file s, fileLayer blueFiles "relay.toml" = .ok file ∧ SectionsAreTables file ∧
      NamesKeys defaultScope greenVariables ∧
      loadFile blueFiles "relay.toml" greenVariables = .ok s ∧ s.broker.queue = "green" ∧
      s.broker.exchange = "blue" ∧ s.http.timeoutMs = 3 ∧ s.broker.prefetch = 10 ∧
      ¬ InScope defaultScope "PATH" ∧
      loadFile blueFiles "relay.toml" ([] ++ ("PATH", "/bin") :: greenVariables) = .ok s := by
  let seen := fun file : List (String × Json) =>
    let given := Setting.given? defaultScope greenVariables file
    (file.all fun entry => front entry.1 == entry.1 && !(tableOf entry.2).isEmpty,
      (given .queue).bind text?, (given .exchange).bind text?, (given .timeout).bind word64?,
      (given .prefetch).isNone)
  have hseen : (fileLayer blueFiles "relay.toml").toOption.map seen
      = some (true, some "green", some "blue", some 3, true) := by
    decide +kernel
  have hloads : (loadFile blueFiles "relay.toml" greenVariables).toOption.map (fun _ => ())
      = some () := by
    decide +kernel
  obtain ⟨file, hfile, hvalues⟩ := exists_of_toOption_map hseen
  obtain ⟨s, hs, -⟩ := exists_of_toOption_map hloads
  simp only [seen, Prod.mk.injEq] at hvalues
  obtain ⟨htables, hqueue, hexchange, htimeout, hprefetch⟩ := hvalues
  have hsections := sectionsAreTables_of_all htables
  have hdecides := taken_by_precedence.2.1 blueFiles "relay.toml" file greenVariables hfile
    hsections namesKeys_greenVariables
  have hstray := taken_by_precedence.2.2.2 blueFiles "relay.toml" [] greenVariables
    ("PATH", "/bin") not_inScope_path
  rw [hs] at hdecides
  cases hdecides with
  | loaded settles =>
    refine ⟨file, s, hfile, hsections, namesKeys_greenVariables, hs, ?_, ?_, ?_, ?_,
      not_inScope_path, hstray.trans hs⟩
    · exact settles.get_eq (k := .queue) hqueue
    · exact settles.get_eq (k := .exchange) hexchange
    · exact settles.get_eq (k := .timeout) htimeout
    · exact settles.default .prefetch (Option.isNone_iff_eq_none.1 hprefetch)

end Settings
end WebhookRelay
