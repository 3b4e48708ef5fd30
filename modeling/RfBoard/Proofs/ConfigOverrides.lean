import RfBoard.Proofs.ConfigMeaning

namespace RfBoard.Config

open Toml (Value Table)

variable {α : Type} {c : Config} {t es : Table} {v : Value} {name : String} {names : List String} {fallback a : α}

section UnknownKeys

def prune (keys : List (String × (Value → Value))) (es : Table) : Table :=
  es.filterMap fun e => (keys.lookup e.1).map fun below => (e.1, below e.2)

def pruneTable (keys : List (String × (Value → Value))) : Value → Value
  | .table es => .table (prune keys es)
  | v => v

def planKeys : List (String × (Value → Value)) := planNames.map (·, id)

def channelKeys : List (String × (Value → Value)) := channelNames.map (·, id)

def pruneSide : Value → Value
  | .array vs => .array (vs.map (pruneTable channelKeys))
  | v => v

def sideKeys : List (String × (Value → Value)) := sideNames.map (·, pruneSide)

def known : Table → Table :=
  prune [("device", id), ("acquisition", pruneTable planKeys), ("calibration", pruneTable sideKeys)]

variable {keys : List (String × (Value → Value))} {below : Value → Value}

lemma lookup_prune (hk : keys.lookup name = some below) : (prune keys es).lookup name = (es.lookup name).map below := by
  induction es with
  | nil => rfl
  | cons e es ih =>
    obtain ⟨k, v⟩ := e
    by_cases h : name = k
    · subst h
      simp [prune, hk]
    · have hne : (name == k) = false := beq_eq_false_iff_ne.mpr h
      cases hl : keys.lookup k with
      | none => simpa [prune, hl, List.lookup_cons, hne] using ih
      | some g => simpa [prune, hl, List.lookup_cons, hne] using ih

lemma lookup_prune_id (hk : keys.lookup name = some id) : (prune keys es).lookup name = es.lookup name := by
  rw [lookup_prune hk, Option.map_id, id]

lemma othersSound_prune (hs : Value.entriesSound es = true) (hn : keys.map (·.1) = names) :
    othersSound names (prune keys es) = othersSound names es := by
  rw [othersSound_of_sound hs names]
  refine List.all_eq_true.mpr fun e he => Bool.or_eq_true_iff.mpr (.inl ?_)
  obtain ⟨d, hd, he⟩ := List.mem_filterMap.mp he
  obtain ⟨below, hk, rfl⟩ := Option.map_eq_some_iff.mp he
  obtain ⟨before, after, rfl, -⟩ := List.lookup_eq_some_iff.mp hk
  simp [← hn]

lemma orDefault_prune {read : Value → Option α} (hs : Value.entriesSound es = true) (hk : keys.lookup name = some below)
    (hbelow : ∀ v, v.isSound = true → read (below v) = read v) :
    orDefault fallback read ((prune keys es).lookup name) = orDefault fallback read (es.lookup name) := by
  rw [lookup_prune hk]
  cases h : es.lookup name with
  | none => rfl
  | some v => exact hbelow v (isSound_of_lookup hs h)

lemma readChannel_prune (hs : v.isSound = true) : readChannel (pruneTable channelKeys v) = readChannel v := by
  cases v with
  | table es =>
    have hfields : isFields channelNames (.table (prune channelKeys es)) = isFields channelNames (.table es) :=
      othersSound_prune hs rfl
    have hkey (name : String) (hk : channelKeys.lookup name = some id) :
        (prune channelKeys es).lookup name = es.lookup name := lookup_prune_id hk
    simp only [pruneTable, readChannel, hfields, field, hkey "k" rfl, hkey "b" rfl]
  | _ => rfl

lemma readSide_prune (hs : v.isSound = true) : readSide (pruneSide v) = readSide v := by
  cases v with
  | array vs =>
    match vs with
    | [] | [_] | [_, _] | [_, _, _] => rfl
    | x₀ :: x₁ :: x₂ :: x₃ :: rest =>
      obtain ⟨h₀, h₁, h₂, h₃⟩ := isSound_of_array hs
      simp only [pruneSide, List.map_cons, readSide, readChannel_prune h₀, readChannel_prune h₁, readChannel_prune h₂,
        readChannel_prune h₃]
  | _ => rfl

lemma readAcquisition_prune (hs : v.isSound = true) : readAcquisition (pruneTable planKeys v) = readAcquisition v := by
  cases v with
  | table es =>
    have hfields : isFields planNames (.table (prune planKeys es)) = isFields planNames (.table es) :=
      othersSound_prune hs rfl
    have hkey (name : String) (hk : planKeys.lookup name = some id) :
        (prune planKeys es).lookup name = es.lookup name := lookup_prune_id hk
    simp only [pruneTable, readAcquisition, hfields, field, hkey "period_ms" rfl, hkey "probe_index" rfl,
      hkey "waveform_offset" rfl, hkey "ready_handshake" rfl]
  | _ => rfl

lemma readCalibration_prune (hs : v.isSound = true) : readCalibration (pruneTable sideKeys v) = readCalibration v := by
  cases v with
  | table es =>
    have hfields : isFields sideNames (.table (prune sideKeys es)) = isFields sideNames (.table es) :=
      othersSound_prune hs rfl
    have hkey (name : String) (d : Vector ChannelCalibration 4) (hk : sideKeys.lookup name = some pruneSide) :
        orDefault d readSide ((prune sideKeys es).lookup name) = orDefault d readSide (es.lookup name) :=
      orDefault_prune hs hk fun _ => readSide_prune
    simp only [pruneTable, readCalibration, hfields, field, hkey "fwd" _ rfl, hkey "rfl" _ rfl]
  | _ => rfl

theorem ofTable_known (hs : Value.entriesSound t = true) : ofTable (known t) = ofTable t := by
  have hfields : othersSound ["device", "acquisition", "calibration"] (known t) =
      othersSound ["device", "acquisition", "calibration"] t := othersSound_prune hs rfl
  have hdevice : orDefault standardDevice readString ((known t).lookup "device") =
      orDefault standardDevice readString (t.lookup "device") := orDefault_prune hs rfl fun _ _ => rfl
  have hplan : orDefault ({}, 0) readAcquisition ((known t).lookup "acquisition") =
      orDefault ({}, 0) readAcquisition (t.lookup "acquisition") :=
    orDefault_prune hs rfl fun _ => readAcquisition_prune
  have hcalibration : orDefault .standard readCalibration ((known t).lookup "calibration") =
      orDefault .standard readCalibration (t.lookup "calibration") :=
    orDefault_prune hs rfl fun _ => readCalibration_prune
  simp only [ofTable, ofTable?, hfields, hdevice, hplan, hcalibration]

end UnknownKeys

lemma valid_of_ofText {text : String} (h : ofText text = .ok c) : Valid c := by
  rw [ofText] at h
  split at h
  · cases h
  · cases h
  · exact (ofTable_eq_ok.mp h).2

lemma ofText_eq {text : String} (hr : Toml.read text = .ok t) : ofText text = ofTable t := by
  rw [ofText, hr]

/-- A document whose numbers have values is read as the standard configuration with the fields replaced that it has,
if every known key has a value of its field and the configuration is valid. The keys that are not known can be left
out, and no text at all gives a configuration that is not valid. -/
theorem ofText_overrides (text : String) (t : Table) (hr : Toml.read text = .ok t) (hs : Value.entriesSound t = true) :
    ((∃ c, ofText text = .ok c) ↔ WellTyped t ∧ ∀ c, Means t c → Valid c) ∧
      (∀ c, ofText text = .ok c ↔ Means t c ∧ Valid c) ∧
      ofText text = ofTable (known t) ∧
      ∀ other c, ofText other = .ok c → Valid c := by
  have hiff (c : Config) : ofText text = .ok c ↔ Means t c ∧ Valid c := by
    rw [ofText_eq hr, ofTable_eq_ok, ofTable?_iff hs]
  refine ⟨⟨?_, ?_⟩, hiff, ?_, fun _ _ => valid_of_ofText⟩
  · rintro ⟨c, hc⟩
    obtain ⟨hmeans, hvalid⟩ := (hiff c).mp hc
    refine ⟨exists_means.mp ⟨c, hmeans⟩, fun d hd => ?_⟩
    -- the document means one configuration only
    have hcd : some c = some d := by rw [← (ofTable?_iff hs).mpr hmeans, (ofTable?_iff hs).mpr hd]
    cases hcd
    exact hvalid
  · rintro ⟨htyped, hvalid⟩
    obtain ⟨c, hc⟩ := exists_means.mpr htyped
    exact ⟨c, (hiff c).mpr ⟨hc, hvalid c hc⟩⟩
  · rw [ofText_eq hr, ofTable_known hs]

section Partial

def partialText : String :=
  "device = \"/dev/rf1\"\nnote = 2\n\n[acquisition]\nperiod_ms = 20\n\n" ++
    String.join (List.replicate 3 "[[calibration.rfl]]\nk = 1\nb = 74\nunit = \"dB\"\n\n") ++
    "[[calibration.rfl]]\nk = 1\nb = 74\nunit = \"dB\"\n"

def partialChannels : List Table := List.replicate 4 [("k", .integer 1), ("b", .integer 74), ("unit", .string "dB")]

def partialTable : Table := [("device", .string "/dev/rf1"), ("note", .integer 2),
  ("acquisition", .table [("period_ms", .integer 20)]),
  ("calibration", .table [("rfl", .array (partialChannels.map .table))])]

def partialConfig : Config where
  device := "/dev/rf1"
  plan := { standard.plan with periodMs := 20 }
  probeIndex := standard.probeIndex
  calibration := { Calibration.standard with reflected := Vector.replicate 4 ⟨Float.ofInt 1, Float.ofInt 74⟩ }

open Toml in
lemma read_partialText : Toml.read partialText = .ok partialTable := by
  let root : Table := [("device", .string "/dev/rf1"), ("note", .integer 2)]
  let plan : Table := [("period_ms", .integer 20)]
  let parts := entries root :: (.header ["acquisition"] :: entries plan) ::
    elements ["calibration", "rfl"] partialChannels
  have hplain : ∀ ws ∈ parts, ∀ w ∈ ws, w.IsPlain := by
    have hroot : ∀ e ∈ root, IsBare e.1 ∧ IsScalar e.2 := by
      simp only [root, List.forall_mem_cons, List.not_mem_nil, false_implies, implies_true, and_true]
      exact ⟨⟨by decide, isScalar_string _⟩, ⟨by decide, isScalar_integer (by decide) (by decide)⟩⟩
    have hplan : ∀ e ∈ plan, IsBare e.1 ∧ IsScalar e.2 :=
      List.forall_mem_singleton.mpr ⟨by decide, isScalar_integer (by decide) (by decide)⟩
    have hchannels : ∀ es ∈ partialChannels, ∀ e ∈ es, IsBare e.1 ∧ IsScalar e.2 := by
      intro es hes
      obtain rfl := List.eq_of_mem_replicate hes
      simp only [List.forall_mem_cons, List.not_mem_nil, false_implies, implies_true, and_true]
      exact ⟨⟨by decide, isScalar_integer (by decide) (by decide)⟩,
        ⟨by decide, isScalar_integer (by decide) (by decide)⟩, ⟨by decide, isScalar_string _⟩⟩
    have hheader : (Written.header ["acquisition"]).IsPlain := ⟨by decide, by decide, by decide⟩
    have helement : (Written.element ["calibration", "rfl"]).IsPlain := ⟨by decide, by decide, by decide⟩
    rw [List.forall_mem_cons, List.forall_mem_cons]
    exact ⟨isPlain_entries hroot, List.forall_mem_cons.mpr ⟨hheader, isPlain_entries hplan⟩,
      isPlain_elements helement hchannels⟩
  have happly : ∃ s, applyAll parts.flatten ([], []) = some s ∧ Item.closeEntries s.2 = partialTable := ⟨_, rfl, rfl⟩
  obtain ⟨s, ha, hs⟩ := happly
  have htext : partialText = String.join ((document parts).map fun w => w.print ++ "\n") := by decide +kernel
  rw [htext, ← hs]
  exact read_document hplain ha

theorem ofText_overrides_partial : Toml.read partialText = .ok partialTable ∧
    Value.entriesSound partialTable = true ∧ WellTyped partialTable ∧ ofText partialText = .ok partialConfig := by
  have hs : Value.entriesSound partialTable = true := rfl
  have hmeans : Means partialTable partialConfig := (ofTable?_iff hs).mp rfl
  have hvalid : Valid partialConfig := validate_iff.mp (by decide +kernel)
  obtain ⟨htyped, hiff, -⟩ := ofText_overrides partialText partialTable read_partialText hs
  have hc := (hiff partialConfig).mpr ⟨hmeans, hvalid⟩
  exact ⟨read_partialText, hs, (htyped.mp ⟨_, hc⟩).1, hc⟩

end Partial

end RfBoard.Config
