import IptvCloud.Server.CommandsInfo
import IptvCloud.Stream.StatisticInfo

/-!
# Which params are decoded without a misuse

A decoder tests that a field is there, and then converts what it holds: a JSON null, which is there,
becomes a null pointer that a `std::string` is made of, and the length of any value is asked for
where an array is expected. `deSerialize_defined_iff` is the exact condition on the JSON value, for
every decoder of a management request, of a subscriber record and of stream statistics.
-/

namespace IptvCloud.Server

open JsonC IptvCloud.Stream

/-- The field does not hold a JSON null. -/
def NotNull (j : Json) (key : String) : Prop := j.getEx key ≠ some .null

/-- The field is there. -/
def Present (j : Json) (key : String) : Prop := (j.getEx key).isSome = true

/-- The field is missing, or an array of elements that meet `P`. -/
def ArrayOf (P : Json → Prop) (j : Json) (key : String) : Prop :=
  ∀ v, j.getEx key = some v → ∃ elems, v = .array elems ∧ ∀ e ∈ elems, P e

/-- A subscriber record: each string that is read is no null, and the devices, if they are reached,
are an array of objects without a null id. -/
def UserReadable {χ : Type} (lib : ChannelsLib χ) (j : Json) : Prop :=
  (∀ v, j.getEx "channels" = some v → ∃ channels, lib.deSerialize v = .ok channels) →
    NotNull j "id" ∧ (Present j "id" → NotNull j "login" ∧ (Present j "login" →
      NotNull j "password" ∧ (Present j "password" → Present j "status" →
        ArrayOf (fun e => NotNull e "id") j "devices")))

/-- Statistics: if the id and the type are there, both lists of channels are arrays whose channels
with an id have no null rate, and the id is no null. -/
def StatisticReadable (j : Json) : Prop :=
  Present j "id" → Present j "type" →
    ArrayOf (fun e => Present e "id" → NotNull e "dbps") j "input_streams" ∧
    ArrayOf (fun e => Present e "id" → NotNull e "dbps") j "output_streams" ∧ NotNull j "id"

/-! ## Fields -/

section
variable {α : Type} {co : Coercions} {j : Json} {key : String}

theorem notNull_iff : NotNull j key ↔ ∀ v, j.getEx key = some v → v ≠ .null := by
  constructor
  · rintro h v hv rfl
    exact h hv
  · intro h hnull
    exact h .null hnull rfl

theorem isDefined_requiredString :
    isDefined (requiredField j key fun v => v.toStdString co) = true ↔ NotNull j key := by
  simp only [isDefined_requiredField, isDefined_toStdString, notNull_iff]

theorem isDefined_optionalString {default : String} :
    isDefined (optionalField j key default fun v => v.toStdString co) = true ↔ NotNull j key := by
  simp only [isDefined_optionalField, isDefined_toStdString, notNull_iff]

/-- What a decoder does after a field that has been read. -/
theorem forall_requiredField {read : Json → Decoded α} {P : Prop}
    (h : isDefined (requiredField j key read) = true)
    (hread : ∀ v, isDefined (read v) = true → ∃ a, read v = .ok a) :
    (∀ a, requiredField j key read = .ok a → P) ↔ (Present j key → P) := by
  simp only [requiredField_eq_ok, Present, Option.isSome_iff_exists]
  rw [isDefined_requiredField] at h
  constructor
  · rintro hP ⟨v, hv⟩
    obtain ⟨a, ha⟩ := hread v (h v hv)
    exact hP a ⟨v, hv, ha⟩
  · rintro hP a ⟨v, hv, -⟩
    exact hP ⟨v, hv⟩

theorem toStdString_of_isDefined (v : Json)
    (h : isDefined (v.toStdString co : Decoded String) = true) :
    ∃ s, (v.toStdString co : Decoded String) = .ok s := by
  cases v with
  | null => cases h
  | bool | int | double | string | array | object => exact ⟨_, rfl⟩

/-- A required string, and what the decoder does after it. -/
theorem requiredString_and {P : Prop} :
    isDefined (requiredField j key fun v => v.toStdString co) = true ∧
      (∀ s, (requiredField j key fun v => v.toStdString co) = .ok s → P) ↔
    NotNull j key ∧ (Present j key → P) := by
  refine (and_congr_right fun h => ?_).trans (and_congr_left' isDefined_requiredString)
  exact forall_requiredField h toStdString_of_isDefined

/-- A required field that any JSON value fills. -/
theorem requiredValue_and {value : Json → α} {P : Prop} :
    isDefined (requiredField j key fun v => .ok (value v)) = true ∧
      (∀ a, (requiredField j key fun v => .ok (value v)) = .ok a → P) ↔ (Present j key → P) := by
  have hdef : isDefined (requiredField j key fun v => .ok (value v)) = true :=
    isDefined_requiredField.2 fun _ _ => rfl
  rw [and_iff_right hdef]
  exact forall_requiredField hdef fun v _ => ⟨value v, rfl⟩

/-- A field that may be missing and that any JSON value fills. -/
theorem optionalValue_and {value : Json → α} {default : α} {P : Prop} :
    isDefined (optionalField j key default fun v => .ok (value v)) = true ∧
      (∀ a, (optionalField j key default fun v => .ok (value v)) = .ok a → P) ↔ P := by
  unfold optionalField
  split <;> simp

end

theorem isDefined_array {α : Type} {j : Json} {key : String} {P : Json → Prop}
    (default : List α) (loop : List Json → Decoded (List α))
    (hloop : ∀ elems, isDefined (loop elems) = true ↔ ∀ e ∈ elems, P e) :
    isDefined (optionalField j key default fun v => v.elements >>= loop) = true ↔
      ArrayOf P j key := by
  simp only [isDefined_optionalField, isDefined_bind, isDefined_elements, ArrayOf]
  constructor
  · intro h v hv
    obtain ⟨⟨elems, rfl⟩, hdef⟩ := h v hv
    exact ⟨elems, rfl, (hloop elems).1 (hdef elems rfl)⟩
  · intro h v hv
    obtain ⟨elems, rfl, hP⟩ := h v hv
    refine ⟨⟨elems, rfl⟩, fun elems' heq => ?_⟩
    cases heq
    exact (hloop elems).2 hP

theorem mapM_string (co : Coercions) (elems : List Json) (h : ∀ e ∈ elems, e ≠ .null) :
    ∃ strings, elems.mapM (fun v => (v.toStdString co : Decoded String)) = .ok strings := by
  induction elems with
  | nil => exact ⟨[], rfl⟩
  | cons e elems ih =>
    obtain ⟨he, helems⟩ := List.forall_mem_cons.1 h
    have hdef : isDefined (e.toStdString co : Decoded String) = true :=
      (isDefined_toStdString co e).2 he
    obtain ⟨s, hs⟩ := toStdString_of_isDefined e hdef
    obtain ⟨strings, hstrings⟩ := ih helems
    exact ⟨s :: strings, by rw [List.mapM_cons, hs, hstrings]; rfl⟩

theorem isDefined_mapM_string (co : Coercions) (elems : List Json) :
    isDefined (elems.mapM fun v => (v.toStdString co : Decoded String)) = true ↔
      ∀ e ∈ elems, e ≠ .null := by
  constructor
  · intro h
    induction elems with
    | nil => simp
    | cons e elems ih =>
      rw [List.mapM_cons, isDefined_bind] at h
      obtain ⟨s, hs⟩ := toStdString_of_isDefined e h.1
      have hrest := h.2 s hs
      rw [isDefined_bind] at hrest
      exact List.forall_mem_cons.2 ⟨(isDefined_toStdString co e).1 h.1, ih hrest.1⟩
  · intro h
    obtain ⟨strings, hstrings⟩ := mapM_string co elems h
    simp [hstrings]

/-! ## The decoders -/

section
variable {χ δ : Type} (cm : Common) (channels : ChannelsLib χ) (lib : DesireLib δ)
  (clock : Nat → Int64) (j : Json)

theorem isDefined_deSerialize {α : Type} {doDeSerialize : Json → Decoded α} {P : Json → Prop}
    (h : ∀ j, isDefined (doDeSerialize j) = true ↔ P j) (hnull : P .null) :
    isDefined (cm.deSerialize doDeSerialize j) = true ↔ P j := by
  unfold Common.deSerialize
  split
  · split
    · simp [hnull]
    · exact h .null
  · exact h j

theorem isDefined_licenseInfo :
    isDefined (LicenseInfo.doDeSerialize cm.co j) = true ↔ NotNull j "license_key" := by
  simp only [LicenseInfo.doDeSerialize, isDefined_bind, isDefined_optionalString, isDefined_pure,
    implies_true, and_true]

theorem isDefined_stopServiceInfo :
    isDefined (StopServiceInfo.doDeSerialize cm.co j) = true ↔ NotNull j "license_key" := by
  simp only [StopServiceInfo.doDeSerialize, isDefined_bind, isDefined_licenseInfo,
    isDefined_optionalField, isDefined_ok, isDefined_pure, implies_true, and_true]

theorem isDefined_startInfo :
    isDefined (StartInfo.doDeSerialize cm.co j) = true ↔ NotNull j "config" := by
  simp only [StartInfo.doDeSerialize, isDefined_bind, isDefined_requiredString, isDefined_pure,
    implies_true, and_true]

theorem isDefined_strings (key : String) :
    isDefined (optionalField j key [] (readStrings cm.co)) = true ↔ ArrayOf (· ≠ .null) j key :=
  isDefined_array [] _ (isDefined_mapM_string cm.co)

theorem readStrings_of_isDefined {key : String}
    (h : isDefined (optionalField j key [] (readStrings cm.co)) = true) :
    ∃ strings, optionalField j key [] (readStrings cm.co) = .ok strings := by
  rw [isDefined_strings] at h
  unfold optionalField
  split
  · rename_i v hv
    obtain ⟨elems, rfl, hne⟩ := h v hv
    exact mapM_string cm.co elems hne
  · exact ⟨[], rfl⟩

theorem isDefined_syncInfo :
    isDefined (SyncInfo.doDeSerialize cm.co j) = true ↔
      ArrayOf (· ≠ .null) j "streams" ∧ ArrayOf (· ≠ .null) j "subscribers" := by
  simp only [SyncInfo.doDeSerialize, isDefined_bind, isDefined_pure, implies_true, and_true]
  rw [← isDefined_strings cm j "streams", ← isDefined_strings cm j "subscribers"]
  refine and_congr_right fun hdef => ?_
  obtain ⟨streams, hstreams⟩ := readStrings_of_isDefined cm j hdef
  exact ⟨fun h => h streams hstreams, fun h _ _ => h⟩

theorem isDefined_deviceInfo (e : Json) :
    isDefined (DeviceInfo.doDeSerialize cm.co e) = true ↔ NotNull e "id" := by
  simp only [DeviceInfo.doDeSerialize, isDefined_bind, isDefined_requiredField, isDefined_ok,
    isDefined_toStdString, isDefined_pure, implies_true, and_true, notNull_iff]

theorem isDefined_channelStats (now : Int64) (e : Json) :
    isDefined (ChannelStats.doDeSerialize cm.co lib now e) = true ↔
      (Present e "id" → NotNull e "dbps") := by
  simp only [ChannelStats.doDeSerialize, isDefined_bind, requiredValue_and,
    isDefined_optionalField, isDefined_map, isDefined_toStdString, isDefined_pure, implies_true,
    and_true, notNull_iff]

theorem isDefined_devices :
    isDefined (optionalField j "devices" [] fun v => do
      collect (DeviceInfo.doDeSerialize cm.co) (← v.elements)) = true ↔
        ArrayOf (fun e => NotNull e "id") j "devices" := by
  refine isDefined_array [] _ fun elems => ?_
  simp only [isDefined_collect, isDefined_deviceInfo]

theorem readChannels_ok :
    (∃ a, readChannels channels j = .ok a) ↔
      ∀ v, j.getEx "channels" = some v → ∃ a, channels.deSerialize v = .ok a := by
  unfold readChannels optionalField
  split
  · rename_i v hv
    cases h : channels.deSerialize v with
    | ok a => simp [hv, h, Except.mapError]
    | error err => simp [hv, h, Except.mapError]
  · rename_i hv
    simp [hv]

theorem isDefined_readChannels : isDefined (readChannels channels j) = true := by
  refine isDefined_optionalField.2 fun v _ => ?_
  cases channels.deSerialize v <;> rfl

theorem isDefined_userInfo :
    isDefined (UserInfo.doDeSerialize cm.co channels j) = true ↔ UserReadable channels j := by
  rw [UserInfo.doDeSerialize, UserReadable, ← readChannels_ok]
  simp only [isDefined_bind, isDefined_readChannels, isDefined_devices, requiredString_and,
    requiredValue_and, isDefined_pure, implies_true, and_true, true_and, forall_exists_index]

theorem isDefined_readChannelStats (key : String) (start : Nat) :
    isDefined (optionalField j key [] (readChannelStats cm.co lib clock start)) = true ↔
      ArrayOf (fun e => Present e "id" → NotNull e "dbps") j key := by
  refine isDefined_array [] _ fun elems => ?_
  simp only [isDefined_collect, isDefined_channelStats]
  constructor
  · intro h e he
    obtain ⟨i, hi, rfl⟩ := List.getElem_of_mem (List.mem_reverse.2 he)
    exact h (_, start + i) (List.mk_add_mem_zipIdx_iff_getElem?.2 (List.getElem?_eq_getElem hi))
  · intro h p hp
    exact h p.1 (List.mem_reverse.1 (List.fst_mem_of_mem_zipIdx hp))

/-- A list of channels, and what the decoder does after it. -/
theorem readChannelStats_and {key : String} {start : Nat} {P : Prop} :
    isDefined (optionalField j key [] (readChannelStats cm.co lib clock start)) = true ∧
      (∀ a, optionalField j key [] (readChannelStats cm.co lib clock start) = .ok a → P) ↔
    ArrayOf (fun e => Present e "id" → NotNull e "dbps") j key ∧ P := by
  rw [← isDefined_readChannelStats cm lib clock j key start]
  refine and_congr_right fun hdef => ?_
  have hok : ∃ a, optionalField j key [] (readChannelStats cm.co lib clock start) = .ok a := by
    revert hdef
    unfold optionalField
    split
    · intro hdef
      simp only [readChannelStats, isDefined_bind] at hdef ⊢
      obtain ⟨elems, helems⟩ := (isDefined_elements _).1 hdef.1
      subst helems
      exact collect_of_isDefined (hdef.2 elems rfl)
    · exact fun _ => ⟨[], rfl⟩
  obtain ⟨a, ha⟩ := hok
  exact ⟨fun h => h a ha, fun h _ _ => h⟩

theorem isDefined_statisticInfo :
    isDefined (StatisticInfo.doDeSerialize cm.co lib clock j) = true ↔ StatisticReadable j := by
  rw [StatisticInfo.doDeSerialize, StatisticReadable, isDefined_bind, Present]
  simp only [isDefined_bind, requiredValue_and, readChannelStats_and, optionalValue_and,
    isDefined_toStdString, isDefined_pure, implies_true, and_true]
  cases hid : j.getEx "id" with
  | none => simp [requiredField, hid]
  | some cid => simp [requiredField, hid, NotNull]

end

/-! ## Main result -/

/-- **Decoding without a misuse**: for every JSON value, `DeSerialize` of each class returns a value
or an error exactly when the strings it reads are not null and the arrays it reads are arrays. -/
theorem deSerialize_defined_iff {χ δ : Type} (cm : Common) (channels : ChannelsLib χ)
    (lib : DesireLib δ) (clock : Nat → Int64) (j : Json) :
    (isDefined (cm.deSerialize (LicenseInfo.doDeSerialize cm.co) j) = true ↔
      NotNull j "license_key") ∧
    (isDefined (cm.deSerialize (ActivateInfo.doDeSerialize cm.co) j) = true ↔
      NotNull j "license_key") ∧
    (isDefined (cm.deSerialize (StopServiceInfo.doDeSerialize cm.co) j) = true ↔
      NotNull j "license_key") ∧
    (isDefined (cm.deSerialize (StartInfo.doDeSerialize cm.co) j) = true ↔ NotNull j "config") ∧
    (isDefined (cm.deSerialize (SyncInfo.doDeSerialize cm.co) j) = true ↔
      ArrayOf (· ≠ .null) j "streams" ∧ ArrayOf (· ≠ .null) j "subscribers") ∧
    (isDefined (cm.deSerialize (UserInfo.doDeSerialize cm.co channels) j) = true ↔
      UserReadable channels j) ∧
    (isDefined (cm.deSerialize (StatisticInfo.doDeSerialize cm.co lib clock) j) = true ↔
      StatisticReadable j) := by
  have missing (key : String) : Json.null.getEx key = none := rfl
  refine ⟨isDefined_deSerialize cm j (isDefined_licenseInfo cm) ?_,
    isDefined_deSerialize cm j (isDefined_licenseInfo cm) ?_,
    isDefined_deSerialize cm j (isDefined_stopServiceInfo cm) ?_,
    isDefined_deSerialize cm j (isDefined_startInfo cm) ?_,
    isDefined_deSerialize cm j (isDefined_syncInfo cm) ?_,
    isDefined_deSerialize cm j (isDefined_userInfo cm channels) ?_,
    isDefined_deSerialize cm j (isDefined_statisticInfo cm lib clock) ?_⟩
  all_goals simp [NotNull, ArrayOf, UserReadable, StatisticReadable, Present, missing]

/-- `{"license_key": null}`, which any client may send with `activate`, and a null among the
subscribers of a synchronisation make a string of a null pointer. -/
theorem deSerialize_nullString :
    isDefined (Common.blank.deSerialize (LicenseInfo.doDeSerialize Common.blank.co)
      (.object [("license_key", .null)])) = false ∧
    isDefined (Common.blank.deSerialize (SyncInfo.doDeSerialize Common.blank.co)
      (.object [("subscribers", .array [.null])])) = false :=
  ⟨rfl, rfl⟩

end IptvCloud.Server
