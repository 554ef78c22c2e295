import IptvCloud.Server.Config

/-!
# What a configuration file sets

* `lookup_readLines`: an option is what the first line with its key gives, a line of the key alone
  giving the empty text (`Shadowed`).
* `loads_iff`: every field is the value of its first line `key=value`, or its default, exactly for
  the files that are `Plain`.
-/

namespace IptvCloud.Server.Service

variable {lib : Library} {lines : List (List Char)}

/-! ## Lines -/

section
variable {key : String}

/-- What follows `key=` in a line that begins so. -/
def valueOf (key : String) (line : List Char) : Option String :=
  ((key.toList ++ ['=']).isPrefixOf? line).map String.ofList

/-- The value of the first line `key=value`. -/
def firstValue (lines : List (List Char)) (key : String) : Option String :=
  lines.findSome? (valueOf key)

/-- A line of the key alone comes before every line `key=value`. -/
def Shadowed (lines : List (List Char)) (key : String) : Prop :=
  lines.find? (fun line => line = key.toList || (valueOf key line).isSome) = some key.toList

instance : Decidable (Shadowed lines key) := inferInstanceAs (Decidable (_ = _))

/-- What the map has for a key: the empty text for a line of the key alone. -/
def optionOf (lines : List (List Char)) (key : String) : Option String :=
  if Shadowed lines key then some "" else firstValue lines key

theorem isPrefixOf?_eq_some_iff {s t r : List Char} : s.isPrefixOf? t = some r ↔ t = s ++ r := by
  induction s generalizing t with
  | nil => simp [List.isPrefixOf?]
  | cons c s ih =>
    cases t with
    | nil => simp [List.isPrefixOf?]
    | cons d t =>
      rw [List.isPrefixOf?]
      by_cases h : c = d
      · simp [h, ih]
      · simp [h, Ne.symm h]

theorem valueOf_eq_some_iff {line : List Char} {value : String} :
    valueOf key line = some value ↔ line = key.toList ++ '=' :: value.toList := by
  unfold valueOf
  rw [Option.map_eq_some_iff]
  simp only [isPrefixOf?_eq_some_iff, List.append_assoc, List.singleton_append]
  constructor
  · rintro ⟨r, rfl, rfl⟩
    simp
  · intro h
    exact ⟨value.toList, h, String.ofList_toList⟩

/-- What a line gives for a key. -/
def pairOf (key : String) (line : List Char) : Option String :=
  let pair := getKeyValue line '='
  if pair.1 = key then some pair.2 else none

theorem getKeyValue_of_eq (hkey : '=' ∉ key.toList) (value : List Char) :
    getKeyValue (key.toList ++ '=' :: value) '=' = (key, String.ofList value) := by
  have hall : ∀ c ∈ key.toList, decide (c ≠ '=') = true := fun c hc => by
    simpa using fun h : c = '=' => hkey (h ▸ hc)
  rw [getKeyValue, if_pos (by simp), List.takeWhile_append_of_pos hall,
    List.dropWhile_append_of_pos hall]
  simp

theorem getKeyValue_not_mem {line : List Char} (h : '=' ∉ line) :
    getKeyValue line '=' = (String.ofList line, "") := if_neg h

/-- A line gives the empty text for the key that it is, and for others what follows `key=`. -/
theorem pairOf_eq (hkey : '=' ∉ key.toList) (line : List Char) :
    pairOf key line = if line = key.toList then some "" else valueOf key line := by
  by_cases hmem : '=' ∈ line
  · have hne : line ≠ key.toList := fun h => hkey (h ▸ hmem)
    rw [if_neg hne]
    obtain ⟨k, v, rfl, hk⟩ := List.eq_append_cons_of_mem hmem
    have hpair := @getKeyValue_of_eq (String.ofList k) (by simpa using hk) v
    rw [String.toList_ofList] at hpair
    by_cases hkk : String.ofList k = key
    · subst hkk
      have hval : valueOf (String.ofList k) (k ++ '=' :: v) = some (String.ofList v) :=
        valueOf_eq_some_iff.2 (by simp)
      simp [pairOf, hpair, hval]
    · have hval : valueOf key (k ++ '=' :: v) = none := by
        refine Option.eq_none_iff_forall_ne_some.2 fun value h => hkk ?_
        have hget := getKeyValue_of_eq hkey value.toList
        rw [← valueOf_eq_some_iff.1 h, hpair] at hget
        exact congrArg Prod.fst hget
      simp [pairOf, hpair, hkk, hval]
  · have hval : valueOf key line = none := by
      refine Option.eq_none_iff_forall_ne_some.2 fun value h => hmem ?_
      rw [valueOf_eq_some_iff.1 h]
      simp
    rw [pairOf, getKeyValue_not_mem hmem, hval]
    by_cases hline : line = key.toList
    · simp [hline]
    · have hk : String.ofList line ≠ key := fun h => hline (by rw [← h, String.toList_ofList])
      simp [hline, hk]

/-! ## The options -/

theorem lookup_readLine (hkey : key ∈ serviceFields) (options : ArgsMap) (line : List Char) :
    (readLine options line).lookup key = (options.lookup key).or (pairOf key line) := by
  simp only [readLine, pairOf]
  by_cases hk : (getKeyValue line '=').1 = key
  · rw [if_pos (by rw [hk]; exact hkey), insertNew, hk, if_pos rfl]
    by_cases hmem : key ∈ options
    · obtain ⟨value, hv⟩ := Option.isSome_iff_exists.1 (AList.lookup_isSome.2 hmem)
      rw [if_pos hmem, hv]
      rfl
    · rw [if_neg hmem, AList.lookup_insert, AList.lookup_eq_none.2 hmem]
      rfl
  · rw [if_neg hk, Option.or_none]
    split
    · rw [insertNew]
      split
      · rfl
      · exact AList.lookup_insert_ne (Ne.symm hk)
    · rfl

theorem lookup_foldl (hkey : key ∈ serviceFields) (options : ArgsMap) (lines : List (List Char)) :
    (lines.foldl readLine options).lookup key =
      (options.lookup key).or (lines.findSome? (pairOf key)) := by
  induction lines generalizing options with
  | nil => simp
  | cons line lines ih =>
    rw [List.foldl_cons, ih, lookup_readLine hkey, Option.or_assoc]
    congr 1
    rw [List.findSome?_cons]
    cases pairOf key line <;> rfl

theorem findSome?_pairOf (hkey : '=' ∉ key.toList) (lines : List (List Char)) :
    lines.findSome? (pairOf key) = optionOf lines key := by
  induction lines with
  | nil => rfl
  | cons line lines ih =>
    rw [List.findSome?_cons, pairOf_eq hkey, ih]
    by_cases hline : line = key.toList
    · simp [optionOf, Shadowed, hline]
    · rw [if_neg hline]
      cases hv : valueOf key line with
      | some value => simp [optionOf, Shadowed, firstValue, hline, hv]
      | none =>
        have hshadowed : Shadowed (line :: lines) key ↔ Shadowed lines key := by
          simp [Shadowed, hline, hv]
        have hfirst : firstValue (line :: lines) key = firstValue lines key := by
          simp [firstValue, hv]
        simp only [optionOf, hshadowed, hfirst]

theorem fields_no_separator (hkey : key ∈ serviceFields) : '=' ∉ key.toList := by
  revert key
  decide

/-- **An option** is what the first line with its key gives. -/
theorem lookup_readLines (hkey : key ∈ serviceFields) (lines : List (List Char)) :
    (lines.foldl readLine ∅).lookup key = optionOf lines key := by
  rw [lookup_foldl hkey, findSome?_pairOf (fields_no_separator hkey), AList.lookup_empty,
    Option.none_or]

end

/-! ## The fields -/

inductive Field
  | logPath
  | logLevel
  | host
  | httpHost
  | vodsHost
  | subscribersHost
  | bandwidthHost
  | ttlFiles
  deriving DecidableEq

namespace Field

def key : Field → String
  | logPath => "log_path"
  | logLevel => "log_level"
  | host => "host"
  | httpHost => "http_host"
  | vodsHost => "vods_host"
  | subscribersHost => "subscribers_host"
  | bandwidthHost => "bandwidth_host"
  | ttlFiles => "ttl_files"

/-- The type of a field. -/
abbrev Value (lib : Library) : Field → Type
  | logPath => String
  | logLevel => lib.LogLevel
  | ttlFiles => Int64
  | host | httpHost | vodsHost | subscribersHost | bandwidthHost => lib.HostAndPort

/-- The conversion of a field. -/
def convert (lib : Library) : (f : Field) → String → Option (f.Value lib)
  | logPath => some
  | logLevel => lib.textToLogLevel
  | ttlFiles => lib.toTime
  | host | httpHost | vodsHost | subscribersHost | bandwidthHost => lib.toHostAndPort

/-- The field's own default: for a host, the local host with the port of its service. -/
def default (lib : Library) : (f : Field) → f.Value lib
  | logPath => dummyLogFilePath
  | logLevel => lib.logLevelInfo
  | host => lib.createLocalHost clientPort
  | httpHost => lib.createLocalHost httpPort
  | vodsHost => lib.createLocalHost vodsPort
  | subscribersHost => lib.createLocalHost subscribersPort
  | bandwidthHost => lib.createLocalHost bandwidthPort
  | ttlFiles => ttlFilesDefault

/-- What a field is to be for the value of its line: the value if it converts, else the default. -/
def read (lib : Library) (f : Field) (value : Option String) : f.Value lib :=
  (value.bind (f.convert lib)).getD (f.default lib)

end Field

/-- The field of a configuration. -/
def Config.get (config : Config lib) : (f : Field) → f.Value lib
  | .logPath => config.logPath
  | .logLevel => config.logLevel
  | .host => config.host
  | .httpHost => config.httpHost
  | .vodsHost => config.vodsHost
  | .subscribersHost => config.subscribersHost
  | .bandwidthHost => config.bandwidthHost
  | .ttlFiles => config.ttlFiles

/-- Every field is what its first line `key=value` says. -/
def Loads (lib : Library) (lines : List (List Char)) (config : Config lib) : Prop :=
  ∀ f : Field, config.get f = f.read lib (firstValue lines f.key)

/-- The value of a line of the key alone would not be noticed. -/
def Unnoticed (lib : Library) (lines : List (List Char)) (f : Field) : Prop :=
  Shadowed lines f.key → f.read lib (some "") = f.read lib (firstValue lines f.key)

theorem read_optionOf (f : Field) :
    f.read lib (optionOf lines f.key) = f.read lib (firstValue lines f.key) ↔
      Unnoticed lib lines f := by
  unfold optionOf Unnoticed
  by_cases h : Shadowed lines f.key <;> simp [h]

/-- What `load_config_from_file` makes of the lines. -/
def configOfLines (lib : Library) (lines : List (List Char)) : Config lib :=
  configOf lib (lines.foldl readLine ∅)

/-- The first line with the key of the bandwidth host gives a host. -/
def BandwidthConverts (lib : Library) (lines : List (List Char)) : Prop :=
  ((optionOf lines "bandwidth_host").bind lib.toHostAndPort).isSome

theorem argsGetValue_lines {α : Type} (lines : List (List Char)) (key : String)
    (hkey : key ∈ serviceFields) (convert : String → Option α) :
    argsGetValue (lines.foldl readLine ∅) key convert = (optionOf lines key).bind convert := by
  rw [argsGetValue, lookup_readLines hkey]

/-- The other fields are read from their own lines. -/
theorem get_configOfLines (f : Field) (hb : f ≠ .bandwidthHost) :
    (configOfLines lib lines).get f = f.read lib (optionOf lines f.key) := by
  cases f with
  | logPath => exact congrArg (Option.getD · _) (argsGetValue_lines _ "log_path" (by decide) some)
  | logLevel =>
    simp only [configOfLines, configOf, Config.get, Field.read, Field.key, Field.convert,
      Field.default, argsGetValue_lines _ "log_level" (by decide)]
    cases optionOf lines "log_level" <;> rfl
  | host => exact congrArg (Option.getD · _) (argsGetValue_lines _ "host" (by decide) _)
  | httpHost => exact congrArg (Option.getD · _) (argsGetValue_lines _ "http_host" (by decide) _)
  | vodsHost => exact congrArg (Option.getD · _) (argsGetValue_lines _ "vods_host" (by decide) _)
  | subscribersHost =>
    exact congrArg (Option.getD · _) (argsGetValue_lines _ "subscribers_host" (by decide) _)
  | ttlFiles => exact congrArg (Option.getD · _) (argsGetValue_lines _ "ttl_files" (by decide) _)
  | bandwidthHost => exact absurd rfl hb

/-- The bandwidth host has no default. -/
theorem get_bandwidthHost (lib : Library) (lines : List (List Char)) :
    (configOfLines lib lines).get .bandwidthHost =
      ((optionOf lines "bandwidth_host").bind lib.toHostAndPort).getD lib.emptyHost :=
  congrArg (Option.getD · _) (argsGetValue_lines lines "bandwidth_host" (by decide) _)

/-- A file whose fields come out right: no line of a key alone is noticed, and the bandwidth host
converts, or it should be the default-constructed host, which it is without that. -/
def Plain (lib : Library) (lines : List (List Char)) : Prop :=
  (∀ f : Field, f ≠ .bandwidthHost → Unnoticed lib lines f) ∧
  (BandwidthConverts lib lines ∧ Unnoticed lib lines .bandwidthHost ∨
    ¬ BandwidthConverts lib lines ∧
      Field.bandwidthHost.read lib (firstValue lines Field.bandwidthHost.key) = lib.emptyHost)

theorem bandwidthHost_iff (lib : Library) (lines : List (List Char)) :
    (configOfLines lib lines).get .bandwidthHost =
        Field.bandwidthHost.read lib (firstValue lines Field.bandwidthHost.key) ↔
      BandwidthConverts lib lines ∧ Unnoticed lib lines .bandwidthHost ∨
        ¬ BandwidthConverts lib lines ∧
          Field.bandwidthHost.read lib (firstValue lines Field.bandwidthHost.key) =
            lib.emptyHost := by
  rw [get_bandwidthHost, ← read_optionOf .bandwidthHost]
  cases ho : (optionOf lines "bandwidth_host").bind lib.toHostAndPort with
  | some host =>
    have hc : BandwidthConverts lib lines := by rw [BandwidthConverts, ho]; rfl
    have hread : Field.bandwidthHost.read lib (optionOf lines Field.bandwidthHost.key) = host :=
      congrArg (Option.getD · _) ho
    simp [hc, hread]
  | none =>
    have hc : ¬ BandwidthConverts lib lines := by rw [BandwidthConverts, ho]; exact nofun
    simp [hc, eq_comm]

theorem loads_configOfLines_iff : Loads lib lines (configOfLines lib lines) ↔ Plain lib lines := by
  have others : (∀ f : Field, f ≠ .bandwidthHost →
        (configOfLines lib lines).get f = f.read lib (firstValue lines f.key)) ↔
      ∀ f : Field, f ≠ .bandwidthHost → Unnoticed lib lines f := by
    refine forall_congr' fun f => imp_congr_right fun hb => ?_
    rw [get_configOfLines f hb, read_optionOf]
  rw [Plain, ← others, ← bandwidthHost_iff]
  constructor
  · exact fun h => ⟨fun f _ => h f, h .bandwidthHost⟩
  · intro ⟨h, hb⟩ f
    by_cases hf : f = .bandwidthHost
    · exact hf ▸ hb
    · exact h f hf

/-- **Loading a configuration**: the fields are those of the file exactly when it is `Plain`. -/
theorem loads_iff (lib : Library) (files : String → Option String) (path text : String)
    (hpath : path ≠ "") (hopen : files path = some text) :
    ∃ config, loadConfigFromFile lib files path = .ok config ∧
      (Loads lib (getlines text.toList) config ↔ Plain lib (getlines text.toList)) := by
  refine ⟨configOfLines lib (getlines text.toList), ?_, loads_configOfLines_iff⟩
  rw [loadConfigFromFile, readSlaveConfig, if_neg hpath, hopen]
  rfl

/-- A library with hosts by name and port. -/
def sampleLibrary : Library where
  HostAndPort := String × UInt16
  LogLevel := Nat
  emptyHost := ("", 0)
  createLocalHost port := ("localhost", port)
  logLevelInfo := 6
  toHostAndPort s := if s = "127.0.0.1:5001" then some ("127.0.0.1", 5001) else none
  toTime _ := none
  textToLogLevel _ := none

theorem loads_iff_sample :
    "/etc/service.conf" ≠ "" ∧
      ∃ config, loadConfigFromFile sampleLibrary
          (fun _ => some "bandwidth_host=127.0.0.1:5001\n") "/etc/service.conf" = .ok config ∧
        (Loads sampleLibrary (getlines "bandwidth_host=127.0.0.1:5001\n".toList) config ↔
          Plain sampleLibrary (getlines "bandwidth_host=127.0.0.1:5001\n".toList)) :=
  ⟨by decide, loads_iff sampleLibrary _ "/etc/service.conf" "bandwidth_host=127.0.0.1:5001\n"
    (by decide) rfl⟩

/-- An empty file leaves the bandwidth host without a port. -/
theorem empty_file_bandwidth_host :
    ∃ config, loadConfigFromFile sampleLibrary (fun _ => some "") "/etc/service.conf" =
        .ok config ∧
      ¬ Loads sampleLibrary (getlines "".toList) config := by
  refine ⟨configOf sampleLibrary ∅, rfl, fun h => ?_⟩
  have hport := congrArg Prod.snd (h .bandwidthHost)
  exact absurd hport (by decide)

end IptvCloud.Server.Service
