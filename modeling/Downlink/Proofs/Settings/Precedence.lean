import Downlink.Proofs.Json.Pairs
import Downlink.Proofs.Subnets.Hosts
import Downlink.Settings.Load

/-! # Where settings come from

Each setting has one source: its environment variable, the last value of its key in the settings
file, or its default. What is loaded is settled by the three sources alone, so what the file says
besides, under other keys or under keys that the environment overrides, does not interfere, unless
it is nested too deep: then nothing is loaded.
-/

namespace Downlink.Settings

inductive Source where
  | environment (text : String)
  | file (value : Json)
  | default

def Source.value (standard : Json) : Source → Json
  | environment text => .str text
  | file value => value
  | default => standard

/-- The environment has to give the attempts as a numeral. -/
def Source.attempts? : Source → Except Fault Json
  | environment text =>
    match (Json.str text).toInteger? with
    | .ok n => .ok (.int n)
    | .error e => .error (.attempts e)
  | source => .ok (source.value (.int subnetCount))

/-- The settings that three sources settle, or the first fault. -/
def settle (height : Nat) (base dedicated attempts : Source) : Except Fault Settings := do
  let attempts ← attempts.attempts?
  let given := base.value (.str defaultBase)
  let ⟨base, base_lt⟩ ← base? height given
  let ⟨maxAttempts, maxAttempts_pos⟩ ← Settings.attempts? attempts
  return {
    base
    base_lt
    baseText := given.text
    dedicatedP2p := flag (dedicated.value (.bool false))
    maxAttempts
    maxAttempts_pos }

def File.object? (levels : Nat) : File → Option (List (String × Json))
  | content bytes => (String.fromUTF8? bytes).bind (Json.written? levels)
  | _ => none

def File.written (levels : Nat) (f : File) : List (String × Json) :=
  (f.object? levels).getD []

def File.tooDeep? (levels : Nat) : File → Option Json.TooDeep
  | content bytes =>
    match Json.readUtf8? levels bytes with
    | .error (.tooDeep fault) => some fault
    | _ => none
  | _ => none

namespace Surroundings

variable (s : Surroundings) (path : Option String)

def written : List (String × Json) :=
  (s.settingsFile path).written s.levels

def tooDeep? : Option Json.TooDeep :=
  (s.settingsFile path).tooDeep? s.levels

/-- The source of the setting with this key, which `name` is the variable for. -/
def source (name key : String) : Source :=
  match s.set? name with
  | some text => .environment text
  | none =>
    match lastValue? key (s.written path) with
    | some value => .file value
    | none => .default

def base : Source :=
  s.source path baseVariable baseKey

def dedicated : Source :=
  s.source path dedicatedVariable dedicatedKey

def attempts : Source :=
  s.source path attemptsVariable attemptsKey

end Surroundings

section Fields

variable {fields : List (String × Json)} {key : String} {f : File} {levels : Nat}

def File.known (levels : Nat) (f : File) : List (String × Json) :=
  (gather (f.written levels) []).filter fun e => isKnown e.1

theorem File.fields?_of_tooDeep? {fault : Json.TooDeep} (h : f.tooDeep? levels = some fault) :
    f.fields? levels = .error (.tooDeep fault) := by
  cases f with
  | content bytes =>
    simp only [tooDeep?] at h
    split at h
    · next hr =>
      cases h
      simp only [fields?, hr]
    · cases h
  | missing | directory => cases h

theorem File.fields?_eq_known (h : f.tooDeep? levels = none) :
    f.fields? levels = .ok (f.known levels) := by
  cases f with
  | content bytes =>
    simp only [tooDeep?, Json.readUtf8?] at h
    simp only [fields?, known, written, object?, Json.readUtf8?]
    cases ht : String.fromUTF8? bytes with
    | none => rfl
    | some s =>
      simp only [ht] at h
      simp only [Option.bind_some]
      split
      · next fields hr =>
        obtain ⟨es, hes, rfl⟩ := Json.read?_eq_obj_iff.mp hr
        rw [hes, Option.getD_some]
      · next fault hr => simp [hr] at h
      · next hr _ =>
        cases hw : Json.written? levels s with
        | none => rfl
        | some es => exact absurd (Json.read?_eq_obj_iff.mpr ⟨es, hw, rfl⟩) (hr _)
  | missing | directory => rfl

theorem valueAt?_filter_isKnown (hk : isKnown key = true) :
    valueAt? key (fields.filter fun e => isKnown e.1) = valueAt? key fields := by
  induction fields with
  | nil => rfl
  | cons e fields ih =>
    by_cases he : isKnown e.1 = true
    · simp [he, valueAt?, ih]
    · have hne : e.1 ≠ key := fun h => he (h ▸ hk)
      simp [he, valueAt?, ih, hne]

theorem File.valueAt?_known (hk : isKnown key = true) :
    valueAt? key (f.known levels) = lastValue? key (f.written levels) := by
  rw [known, valueAt?_filter_isKnown hk, valueAt?_gather]

theorem valueAt?_overrideField (name key : String) (value : Option Json)
    (fields : List (String × Json)) :
    valueAt? key (overrideField name value fields) =
      if key = name then value.or (valueAt? key fields) else valueAt? key fields := by
  cases value with
  | none => simp [overrideField]
  | some v => simp [overrideField, valueAt?_putEntry]

theorem isKnown_overrideField (hf : ∀ k ∈ fields.map Prod.fst, isKnown k = true)
    (hk : isKnown key = true) (value : Option Json) :
    ∀ k ∈ (overrideField key value fields).map Prod.fst, isKnown k = true := by
  cases value with
  | none => exact hf
  | some v =>
    rw [overrideField, keys_putEntry]
    split
    · exact hf
    · simpa [or_imp, forall_and, hk] using hf

/-- Named values that are all known settle the settings by the three that count. -/
theorem ofFields?_of_isKnown (height : Nat) (hf : ∀ k ∈ fields.map Prod.fst, isKnown k = true) :
    ofFields? height fields = do
      let given := (valueAt? baseKey fields).getD (.str defaultBase)
      let base ← base? height given
      let attempts ← attempts? ((valueAt? attemptsKey fields).getD (.int subnetCount))
      return {
        base := base.val
        base_lt := base.property
        baseText := given.text
        dedicatedP2p := (valueAt? dedicatedKey fields).getD (.bool false)
        maxAttempts := attempts.val
        maxAttempts_pos := attempts.property } := by
  have hnone : fields.find? (fun f => !isKnown f.1) = none := by
    simpa using hf
  rw [ofFields?, hnone]

end Fields

namespace Surroundings

variable (s : Surroundings) (path : Option String)

/-- What the environment gives for a setting, or else the file. -/
def given? (name key : String) : Option Json :=
  ((s.set? name).map .str).or (lastValue? key (s.written path))

/-- The fields of the file under those of the environment, with the flag read. -/
def merged (attempts : Option Json) : List (String × Json) :=
  let fields := (s.settingsFile path).known s.levels
  let fields := overrideField baseKey ((s.set? baseVariable).map .str) fields
  let fields := overrideField dedicatedKey ((s.set? dedicatedVariable).map .str) fields
  let fields := overrideField attemptsKey attempts fields
  overrideField dedicatedKey ((valueAt? dedicatedKey fields).map flag) fields

theorem value_source (name key : String) (standard : Json) :
    (s.source path name key).value standard = (s.given? path name key).getD standard := by
  unfold source given?
  cases s.set? name with
  | some text => rfl
  | none => cases lastValue? key (s.written path) <;> rfl

theorem attempts?_attempts :
    (s.attempts path).attempts? = (attemptsSet? s).map fun attempts =>
      (attempts.or (lastValue? attemptsKey (s.written path))).getD
        (.int subnetCount) := by
  unfold attempts source attemptsSet?
  cases s.set? attemptsVariable with
  | some text =>
    simp only [Source.attempts?]
    cases (Json.str text).toInteger? <;> rfl
  | none => cases lastValue? attemptsKey (s.written path) <;> rfl

theorem isKnown_merged (attempts : Option Json) :
    ∀ k ∈ (s.merged path attempts).map Prod.fst, isKnown k = true := by
  have hfile : ∀ k ∈ ((s.settingsFile path).known s.levels).map Prod.fst, isKnown k = true :=
    List.forall_mem_map.2 fun _ he => (List.mem_filter.1 he).2
  exact isKnown_overrideField (isKnown_overrideField (isKnown_overrideField
    (isKnown_overrideField hfile (by decide) _) (by decide) _) (by decide) _) (by decide) _

theorem valueAt?_baseKey_merged (attempts : Option Json) :
    valueAt? baseKey (s.merged path attempts) = s.given? path baseVariable baseKey := by
  simp [merged, valueAt?_overrideField, File.valueAt?_known, given?, written, isKnown, baseKey,
    dedicatedKey, attemptsKey]

theorem valueAt?_attemptsKey_merged (attempts : Option Json) :
    valueAt? attemptsKey (s.merged path attempts) =
      attempts.or (lastValue? attemptsKey (s.written path)) := by
  simp [merged, valueAt?_overrideField, File.valueAt?_known, written, isKnown, baseKey,
    dedicatedKey, attemptsKey]

theorem valueAt?_dedicatedKey_merged (attempts : Option Json) :
    valueAt? dedicatedKey (s.merged path attempts) =
      (s.given? path dedicatedVariable dedicatedKey).map flag := by
  have hor : ∀ v : Option Json, (v.map flag).or v = v.map flag := fun v => by cases v <;> rfl
  simp [merged, valueAt?_overrideField, File.valueAt?_known, given?, written, isKnown, baseKey,
    dedicatedKey, attemptsKey, hor]

end Surroundings

section Load

variable {s : Surroundings} {path : Option String}

theorem load_of_tooDeep? {fault : Json.TooDeep} (h : s.tooDeep? path = some fault) :
    load s path = .error (.tooDeep fault) := by
  rw [load, File.fields?_of_tooDeep? h]
  rfl

theorem load_eq_settle (h : s.tooDeep? path = none) :
    load s path = settle s.height (s.base path) (s.dedicated path) (s.attempts path) := by
  have hload : load s path =
      attemptsSet? s >>= fun a => ofFields? s.height (s.merged path a) := by
    rw [load, File.fields?_eq_known h]
    rfl
  rw [hload, settle, Surroundings.attempts?_attempts]
  cases attemptsSet? s with
  | error e => rfl
  | ok a =>
    have hflag : flag ((s.given? path Surroundings.dedicatedVariable dedicatedKey).getD
        (.bool false)) = ((s.given? path Surroundings.dedicatedVariable dedicatedKey).map
          flag).getD (.bool false) := by
      cases s.given? path Surroundings.dedicatedVariable dedicatedKey <;> rfl
    change ofFields? s.height (s.merged path a) = _
    rw [ofFields?_of_isKnown s.height (s.isKnown_merged path a), s.valueAt?_baseKey_merged,
      s.valueAt?_attemptsKey_merged, s.valueAt?_dedicatedKey_merged, ← hflag,
      Surroundings.base, Surroundings.dedicated, Surroundings.value_source,
      Surroundings.value_source]
    rfl

end Load

section Settle

variable {b d a : Source} {c : Settings}

structure SettledBy (c : Settings) (base dedicated attempts : Source) : Prop where
  /-- The text of the base block is that of its source and denotes a block of length 16. -/
  base : c.baseText = (base.value (.str defaultBase)).text ∧
    ∃ block, Ipv4.Block.ofText? c.baseText = .ok block ∧ block.length = 16 ∧ block.bits = c.base
  dedicated : c.dedicatedP2p = flag (dedicated.value (.bool false))
  attempts : (∃ given, attempts.attempts? = .ok given ∧ given.toInteger? = .ok c.maxAttempts) ∧
    1 ≤ c.maxAttempts

theorem toInteger?_of_attempts? {given : Json} {n : { n : Nat // 0 < n }}
    (h : attempts? given = .ok n) : given.toInteger? = .ok n.val := by
  unfold attempts? at h
  split at h
  · cases h
  · next k hk =>
    split at h
    · next hpos =>
      cases h
      rw [hk, Int.toNat_of_nonneg (by omega)]
    · cases h

theorem settledBy_of_settle {height : Nat} (h : settle height b d a = .ok c) :
    c.SettledBy b d a := by
  obtain ⟨given, ha, h⟩ := bind_eq_ok.mp h
  obtain ⟨base, hb, h⟩ := bind_eq_ok.mp h
  obtain ⟨n, hn, h⟩ := bind_eq_ok.mp h
  cases h
  exact {
    base := ⟨rfl, _, Ipv4.Block.ofText?_of_ofJson? (ofJson?_of_base? hb) (by simp), rfl, rfl⟩
    dedicated := rfl
    attempts := ⟨⟨given, ha, toInteger?_of_attempts? hn⟩, n.property⟩ }

end Settle

/-- Each variable with the key that it overrides. -/
def Surroundings.overrides : List (String × String) :=
  [(baseVariable, baseKey), (dedicatedVariable, dedicatedKey), (attemptsVariable, attemptsKey)]

open Surroundings in
/-- What loading from these surroundings depends on. -/
structure Precedence (s : Surroundings) (path : Option String) : Prop where
  /-- A file that is nested too deep ends it, under whatever key it is so. -/
  ended : ∀ fault, s.tooDeep? path = some fault → load s path = .error (.tooDeep fault)
  settled : s.tooDeep? path = none →
    load s path = settle s.height (s.base path) (s.dedicated path) (s.attempts path)
  /-- Only the variables count and, where one is not set, the last value of its key in the file:
  another file and other surroundings that agree on these have the same outcome. -/
  determined : ∀ s' path', s'.height = s.height → s'.tooDeep? path' = s.tooDeep? path →
    (∀ o ∈ overrides, s'.set? o.1 = s.set? o.1 ∧
      (s.set? o.1 = none → lastValue? o.2 (s'.written path') = lastValue? o.2 (s.written path))) →
      load s' path' = load s path
  /-- A file that does not decode to an object is as good as none. -/
  unread : s.tooDeep? path = none → (∀ bytes, s.settingsFile path = .content bytes →
    ∀ fields, Json.readUtf8? s.levels bytes ≠ .ok (.obj fields)) →
      load s path = load { s with file := fun _ => .missing } path
  named : ∀ p, path = some p → p ≠ "" → ∀ environment,
    (∀ name, name ≠ pathVariable → environment name = s.environment name) →
      load { s with environment } path = load s path
  /-- A flag written as text is read by one rule, whether a variable or a file has it. -/
  flags : ∀ text, s.dedicated path = .environment text → s.tooDeep? path = none → ∀ s' path',
    s'.dedicated path' = .file (.str text) → s'.tooDeep? path' = none → s'.height = s.height →
      s'.base path' = s.base path → s'.attempts path' = s.attempts path →
        load s' path' = load s path
  returned : ∀ c, load s path = .ok c →
    c.SettledBy (s.base path) (s.dedicated path) (s.attempts path)

namespace Surroundings

variable {s s' : Surroundings} {path path' : Option String} {name key : String}

theorem settingsFile_some {p : String} (hp : p ≠ "") : s.settingsFile (some p) = s.file p := by
  have hpath : (some p).filter (!·.isEmpty) = some p := by simp [hp]
  simp only [settingsFile, hpath, Option.orElse_eq_orElse, Option.orElse_some]

theorem settingsFile_missing :
    ({ s with file := fun _ => .missing } : Surroundings).settingsFile path = .missing := by
  unfold settingsFile
  split <;> rfl

theorem source_congr (hs : s'.set? name = s.set? name)
    (hl : s.set? name = none → lastValue? key (s'.written path') =
      lastValue? key (s.written path)) :
    s'.source path' name key = s.source path name key := by
  unfold source
  rw [hs]
  cases hn : s.set? name with
  | some text => rfl
  | none => rw [hl hn]

theorem written_eq_nil (h : ∀ bytes, s.settingsFile path = .content bytes →
    ∀ fields, Json.readUtf8? s.levels bytes ≠ .ok (.obj fields)) : s.written path = [] := by
  rw [written]
  cases hf : s.settingsFile path with
  | missing | directory => rfl
  | content bytes =>
    rw [File.written, File.object?]
    cases ht : String.fromUTF8? bytes with
    | none => rfl
    | some text =>
      cases hw : Json.written? s.levels text with
      | none => simp [hw]
      | some es =>
        refine absurd ?_ (h bytes hf (gather es []))
        rw [Json.readUtf8?, ht]
        exact Json.read?_eq_obj_iff.mpr ⟨es, hw, rfl⟩

end Surroundings

theorem load_congr {s s' : Surroundings} {path path' : Option String}
    (hheight : s'.height = s.height) (hdeep : s'.tooDeep? path' = s.tooDeep? path)
    (h : ∀ o ∈ Surroundings.overrides, s'.set? o.1 = s.set? o.1 ∧
      (s.set? o.1 = none → lastValue? o.2 (s'.written path') = lastValue? o.2 (s.written path))) :
    load s' path' = load s path := by
  cases hf : s.tooDeep? path with
  | some fault => rw [load_of_tooDeep? hf, load_of_tooDeep? (hdeep.trans hf)]
  | none =>
    have hsource : ∀ o ∈ Surroundings.overrides,
        s'.source path' o.1 o.2 = s.source path o.1 o.2 := fun o ho =>
      Surroundings.source_congr (h o ho).1 (h o ho).2
    simp only [Surroundings.overrides, List.forall_mem_cons] at hsource
    obtain ⟨hbase, hdedicated, hattempts, -⟩ := hsource
    rw [load_eq_settle hf, load_eq_settle (hdeep.trans hf), hheight, Surroundings.base,
      Surroundings.dedicated, Surroundings.attempts, hbase, hdedicated, hattempts]
    rfl

/-- Settings come from the environment, else from the file, else from the defaults, each by itself,
unless the file is nested too deep; and what is returned has a base block of length 16 and allows
one attempt at least. -/
theorem load_precedence (s : Surroundings) (path : Option String) : Precedence s path where
  ended _ h := load_of_tooDeep? h
  settled h := load_eq_settle h
  determined _ _ hheight hdeep h := load_congr hheight hdeep h
  unread hd h := by
    refine load_congr rfl (hd.trans ?_) fun o _ => ⟨rfl, fun _ => ?_⟩
    · rw [Surroundings.tooDeep?, Surroundings.settingsFile_missing]
      rfl
    · rw [Surroundings.written_eq_nil h, Surroundings.written, Surroundings.settingsFile_missing]
      rfl
  named p hp hne environment he := by
    have hset : ∀ name, name ≠ Surroundings.pathVariable →
        ({ s with environment } : Surroundings).set? name = s.set? name := fun name hn =>
      congrArg (Option.filter _) (he name hn)
    have hfile : ({ s with environment } : Surroundings).settingsFile path =
        s.settingsFile path := by
      rw [hp, Surroundings.settingsFile_some hne, Surroundings.settingsFile_some hne]
    refine load_congr rfl (congrArg (File.tooDeep? s.levels) hfile) fun o ho =>
      ⟨hset o.1 ?_, fun _ => by rw [Surroundings.written, Surroundings.written, hfile]⟩
    revert o
    decide
  flags text hd hdeep s' path' hd' hdeep' hheight hb ha := by
    rw [load_eq_settle hdeep, load_eq_settle hdeep', hheight, hd, hd', hb, ha]
    simp only [settle, Source.value]
  returned c hc := by
    cases hf : s.tooDeep? path with
    | some fault =>
      rw [load_of_tooDeep? hf] at hc
      cases hc
    | none =>
      rw [load_eq_settle hf] at hc
      exact settledBy_of_settle hc

theorem fromUTF8?_toUTF8 (text : String) : String.fromUTF8? text.toUTF8 = some text := by
  simp only [String.fromUTF8?]
  exact dif_pos text.isValidUTF8

theorem object?_toUTF8 (levels : Nat) (text : String) :
    (File.content text.toUTF8).object? levels = Json.written? levels text := by
  rw [File.object?, fromUTF8?_toUTF8, Option.bind_some]

def oldText : String :=
  "\x7b\"max_attempts\": \"many\", \"wifi_p2p_dedicated_ip\": 0, " ++
    "\"wifi_p2p_dedicated_ip\": \" YES \"\x7d"

def newText : String :=
  "\x7b\"wifi_p2p_dedicated_ip\": \" YES \", \"colour\": []\x7d"

/-- Both files are there, and the environment sets the number of attempts. -/
def Surroundings.sevenAttempts : Surroundings where
  environment name := if name = attemptsVariable then some "7" else none
  file path := .content (if path = "new.json" then newText else oldText).toUTF8
  levels := 1000
  height := 1000

def isText (text : String) : Option Json → Bool
  | some (.str s) => s == text
  | _ => false

theorem isText_iff {text : String} {v? : Option Json} :
    isText text v? = true ↔ v? = some (.str text) := by
  constructor
  · intro h
    unfold isText at h
    split at h
    · rw [eq_of_beq h]
    · cases h
  · rintro rfl
    exact beq_self_eq_true text

theorem written_sevenAttempts {path : String} (hp : path ≠ "") :
    Surroundings.sevenAttempts.written (some path) =
      (Json.written? 1000 (if path = "new.json" then newText else oldText)).getD [] := by
  rw [Surroundings.written, Surroundings.settingsFile_some hp]
  exact congrArg (Option.getD · []) (object?_toUTF8 1000 _)

theorem tooDeep?_sevenAttempts (path : String) (hp : path ≠ "") :
    Surroundings.sevenAttempts.tooDeep? (some path) = none := by
  have hread : (Json.written? 1000
      (if path = "new.json" then newText else oldText)).isSome = true := by
    split <;> decide +kernel
  obtain ⟨es, hes⟩ := Option.isSome_iff_exists.1 hread
  rw [Surroundings.tooDeep?, Surroundings.settingsFile_some hp]
  simp only [Surroundings.sevenAttempts, File.tooDeep?, Json.readUtf8?, fromUTF8?_toUTF8,
    Json.read?_eq_obj_iff.2 ⟨es, hes, rfl⟩]

theorem lastValue?_sevenAttempts (path : String) (hp : path ≠ "") :
    lastValue? baseKey (Surroundings.sevenAttempts.written (some path)) = none ∧
      lastValue? dedicatedKey (Surroundings.sevenAttempts.written (some path)) =
        some (.str " YES ") := by
  rw [written_sevenAttempts hp, ← Option.isNone_iff_eq_none, ← isText_iff]
  split <;> decide +kernel

theorem set?_sevenAttempts :
    Surroundings.sevenAttempts.set? Surroundings.attemptsVariable = some "7" ∧
      Surroundings.sevenAttempts.set? Surroundings.baseVariable = none ∧
      Surroundings.sevenAttempts.set? Surroundings.dedicatedVariable = none := by
  decide

/-- A malformed number of attempts in the file is overridden, the flag that is written last counts,
and a key that is not known does no harm. -/
theorem load_sevenAttempts :
    load .sevenAttempts (some "old.json") = load .sevenAttempts (some "new.json") ∧
      ∃ c, load .sevenAttempts (some "new.json") = .ok c ∧ c.base = 192 * 256 + 168 ∧
        c.dedicatedP2p = .bool true ∧ c.maxAttempts = 7 := by
  have hp := load_precedence .sevenAttempts (some "new.json")
  obtain ⟨hbaseOld, hflagOld⟩ := lastValue?_sevenAttempts "old.json" (by decide)
  obtain ⟨hbaseNew, hflagNew⟩ := lastValue?_sevenAttempts "new.json" (by decide)
  have hdeepOld := tooDeep?_sevenAttempts "old.json" (by decide)
  have hdeepNew := tooDeep?_sevenAttempts "new.json" (by decide)
  obtain ⟨hattempts, hbase, hdedicated⟩ := set?_sevenAttempts
  refine ⟨hp.determined _ (some "old.json") rfl (hdeepOld.trans hdeepNew.symm)
    fun o ho => ⟨rfl, ?_⟩, ?_⟩
  · simp only [Surroundings.overrides, List.mem_cons, List.not_mem_nil, or_false] at ho
    rcases ho with rfl | rfl | rfl
    · exact fun _ => hbaseOld.trans hbaseNew.symm
    · exact fun _ => hflagOld.trans hflagNew.symm
    · simp [hattempts]
  · have hsettle : load .sevenAttempts (some "new.json") =
        settle 1000 .default (.file (.str " YES ")) (.environment "7") := by
      rw [hp.settled hdeepNew, Surroundings.base, Surroundings.dedicated, Surroundings.attempts,
        Surroundings.source, Surroundings.source, Surroundings.source, hattempts, hbase,
        hdedicated, hbaseNew, hflagNew]
      rfl
    have hparts : ((settle 1000 .default (.file (.str " YES ")) (.environment "7")).toOption.map
        fun c => (c.base, c.maxAttempts)) = some (192 * 256 + 168, 7) := by
      decide +kernel
    obtain ⟨c, hc, hcparts⟩ := Option.map_eq_some_iff.1 hparts
    have hload := hsettle.trans (eq_ok_of_toOption hc)
    have hflag : c.dedicatedP2p = .bool (isYes " YES ") := (settledBy_of_settle
      (eq_ok_of_toOption hc)).dedicated
    have hyes : isYes " YES " = true := by decide +kernel
    exact ⟨c, hload, congrArg Prod.fst hcparts, hyes ▸ hflag, congrArg Prod.snd hcparts⟩

def Surroundings.brackets (n : Nat) : Surroundings where
  environment _ := none
  file _ := .content (String.ofList (List.replicate n '[')).toUTF8
  levels := 1000
  height := 1000

theorem readUtf8?_brackets {n : Nat} (h : 1000 < n) :
    Json.readUtf8? 1000 (String.ofList (List.replicate n '[')).toUTF8 =
      .error (.tooDeep ⟨.array⟩) := by
  rw [Json.readUtf8?, fromUTF8?_toUTF8]
  exact Json.read?_brackets h

theorem load_brackets {n : Nat} (h : 1000 < n) :
    load (.brackets n) (some "deep.json") = .error (.tooDeep ⟨.array⟩) := by
  refine load_of_tooDeep? ?_
  rw [Surroundings.tooDeep?, Surroundings.settingsFile_some (by decide)]
  simp only [Surroundings.brackets, File.tooDeep?, readUtf8?_brackets h]

/-- A file of two thousand open brackets holds no object, but it is not as good as none. -/
theorem brackets_not_ignored :
    (∀ fields, Json.readUtf8? 1000 (String.ofList (List.replicate 2000 '[')).toUTF8 ≠
      .ok (.obj fields)) ∧
    load (.brackets 2000) (some "deep.json") ≠
      load { Surroundings.brackets 2000 with file := fun _ => .missing } (some "deep.json") := by
  have hmissing : (load { Surroundings.brackets 2000 with file := fun _ => .missing }
      (some "deep.json")).toOption.isSome = true := by
    decide +kernel
  refine ⟨fun fields hf => ?_, fun h => ?_⟩
  · rw [readUtf8?_brackets (by decide)] at hf
    cases hf
  · rw [← h, load_brackets (by decide)] at hmissing
    cases hmissing

end Downlink.Settings
