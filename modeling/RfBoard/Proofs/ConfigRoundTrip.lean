import RfBoard.Proofs.ConfigValidity
import RfBoard.Proofs.Toml.Documents

/-!
A configuration survives its text: reading puts the same values at the same places.
-/

namespace RfBoard.Config

open Toml Entries

variable {c : Config}

def planTable (c : Config) : Table := [
  ("period_ms", .integer c.plan.periodMs.toNat),
  ("probe_index", .integer c.probeIndex.toInt),
  ("waveform_offset", .integer c.plan.waveformOffset.toNat),
  ("ready_handshake", .boolean c.plan.handshake)]

def channelEntries (ch : ChannelCalibration) : Table := [("k", .real ch.k), ("b", .real ch.b)]

def sideTables (v : Vector ChannelCalibration 4) : List Table := v.toList.map channelEntries

lemma toTable_eq (c : Config) : c.toTable = [("device", .string c.device), ("acquisition", .table c.planTable),
    ("calibration", .table [
      ("fwd", .array ((sideTables c.calibration.forward).map .table)),
      ("rfl", .array ((sideTables c.calibration.reflected).map .table))])] := by
  simp only [sideTables, List.map_map]
  rfl

lemma sideTables_ne_nil (v : Vector ChannelCalibration 4) : sideTables v ≠ [] :=
  List.ne_nil_of_length_pos (by simp [sideTables])

lemma forall_mem_sideTables {p : Table → Prop} {v : Vector ChannelCalibration 4}
    (h : ∀ ch ∈ v, p (channelEntries ch)) : ∀ es ∈ sideTables v, p es :=
  List.forall_mem_map.mpr fun ch hch => h ch (Vector.mem_toList_iff.mp hch)

section Printing

def parts (c : Config) : List (List Written) :=
  entries [("device", .string c.device)] :: (.header ["acquisition"] :: entries c.planTable) ::
    (elements ["calibration", "fwd"] (sideTables c.calibration.forward) ++
      elements ["calibration", "rfl"] (sideTables c.calibration.reflected))

lemma isFlat_planTable (c : Config) : IsFlat c.planTable := by
  simp [IsFlat, planTable, Value.isBlock]

lemma isFlat_sideTables (v : Vector ChannelCalibration 4) : ∀ es ∈ sideTables v, IsFlat es :=
  forall_mem_sideTables fun ch _ => by simp [IsFlat, channelEntries, Value.isBlock]

lemma blocks_calibration (path : List String) {ts us : List Table} (ht : ts ≠ []) (hu : us ≠ [])
    (hts : ∀ es ∈ ts, IsFlat es) (hus : ∀ es ∈ us, IsFlat es) :
    (Value.table [("fwd", .array (ts.map .table)), ("rfl", .array (us.map .table))]).blocks path =
      (elements (path ++ ["fwd"]) ts ++ elements (path ++ ["rfl"]) us).map (List.map Written.print) := by
  rw [Value.blocks]
  simp only [ownLines, blocksOf, isBlock_tables ht, isBlock_tables hu, if_true, Value.blocks, List.append_nil,
    elementBlocks_flat hts, elementBlocks_flat hus, List.map_append]
  obtain ⟨es, ts, rfl⟩ := List.exists_cons_of_ne_nil ht
  exact if_pos rfl

theorem print_toTable (c : Config) :
    print c.toTable = String.join ((document c.parts).map fun w => w.print ++ "\n") := by
  have hown : ownLines c.toTable = (entries [("device", .string c.device)]).map Written.print := rfl
  have hblocks : blocksOf [] c.toTable =
      (.header ["acquisition"] :: entries c.planTable).map Written.print ::
        (elements ["calibration", "fwd"] (sideTables c.calibration.forward) ++
          elements ["calibration", "rfl"] (sideTables c.calibration.reflected)).map (List.map Written.print) := by
    have hcalibration := blocks_calibration ["calibration"] (sideTables_ne_nil c.calibration.forward)
      (sideTables_ne_nil c.calibration.reflected) (isFlat_sideTables _) (isFlat_sideTables _)
    have hdevice : (Value.string c.device).isBlock = false := rfl
    have htable (es : Table) : (Value.table es).isBlock = true := rfl
    rw [toTable_eq]
    simp only [blocksOf, hdevice, htable, (isFlat_planTable c).blocks, hcalibration, Bool.false_eq_true, if_true, if_false,
      List.nil_append, List.append_nil]
    rfl
  have hjoin : (document c.parts).map (fun w => w.print ++ "\n") =
      ((document c.parts).map Written.print).map (· ++ "\n") := by
    rw [List.map_map]
    rfl
  rw [hjoin, map_print_document, print, hown, hblocks]
  rfl

end Printing

section Reading

def documentEntries (c : Config) : Entries :=
  values [("device", .string c.device)] ++ [("acquisition", .table .header (values c.planTable)),
    ("calibration", .table .implied [
      ("fwd", .tables ((sideTables c.calibration.forward).map values)),
      ("rfl", .tables ((sideTables c.calibration.reflected).map values))])]

lemma nodup_channelEntries (v : Vector ChannelCalibration 4) : ∀ es ∈ sideTables v, (es.map (·.1)).Nodup :=
  forall_mem_sideTables fun ch _ => by
    change ["k", "b"].Nodup
    decide

theorem applyAll_parts (c : Config) : ∃ here, applyAll c.parts.flatten ([], []) = some (here, c.documentEntries) := by
  let device := values [("device", .string c.device)]
  let plan := device ++ [("acquisition", .table .header (values c.planTable))]
  let forward : String × Item := ("fwd", .tables ((sideTables c.calibration.forward).map values))
  have hfirst : "acquisition" ∉ names device := show "acquisition" ∉ ["device"] by decide
  have hsecond : "calibration" ∉ names plan := show "calibration" ∉ ["device", "acquisition"] by decide
  have hreflected : "rfl" ∉ names [forward] := show "rfl" ∉ ["fwd"] by decide
  have hplanNames : (names [] ++ c.planTable.map (·.1)).Nodup :=
    show ["period_ms", "probe_index", "waveform_offset", "ready_handshake"].Nodup by decide
  have hdevice : applyAll (entries [("device", .string c.device)]) ([], []) = some ([], device) := rfl
  have hheader : (Written.header ["acquisition"]).apply ([], device) =
      some (["acquisition"], device ++ [("acquisition", .table .header [])]) := by
    rw [Written.apply, openTable_absent hfirst]
    rfl
  have hplan : applyAll (entries c.planTable) (["acquisition"], device ++ [("acquisition", .table .header [])]) =
      some (["acquisition"], plan) :=
    applyAll_entries (Place.table .header hfirst []) hplanNames
  have hplace : Place ["calibration"] fun inner => plan ++ [("calibration", .table .implied inner)] :=
    Place.table .implied hsecond []
  -- the first header under `calibration` makes this table, the later ones go through it
  obtain ⟨here, hfwd⟩ := applyAll_new_elements (sideTables_ne_nil c.calibration.forward)
    (openElement_under_absent hsecond) hplace (show "fwd" ∉ names [] from List.not_mem_nil) (nodup_channelEntries _)
    ["acquisition"]
  have hopen := (hplace.openElement "rfl" [forward]).trans (congrArg _ (openElement_absent hreflected))
  obtain ⟨here', hrfl⟩ := applyAll_new_elements (sideTables_ne_nil c.calibration.reflected) hopen hplace hreflected
    (nodup_channelEntries _) here
  refine ⟨here', ?_⟩
  rw [parts, List.flatten_cons, List.flatten_cons, List.flatten_append, List.cons_append, applyAll_append, hdevice,
    Option.bind_some, applyAll_cons, hheader, Option.bind_some, applyAll_append, hplan, Option.bind_some, applyAll_append]
  exact (congrArg (Option.bind · _) hfwd).trans hrfl

lemma closeEntries_documentEntries (c : Config) : Item.closeEntries c.documentEntries = c.toTable := by
  rw [toTable_eq, documentEntries, closeEntries_append, closeEntries_values]
  simp only [Item.closeEntries, Item.close, closeAll_values, closeEntries_values]
  rfl

end Reading

section Values

lemma isPlain_entries {es : Table} (h : ∀ e ∈ es, IsBare e.1 ∧ IsScalar e.2) : ∀ w ∈ entries es, w.IsPlain :=
  List.forall_mem_map.mpr fun e he => h e he

lemma isPlain_elements {path : List String} {ts : List Table} (hp : (Written.element path).IsPlain)
    (h : ∀ es ∈ ts, ∀ e ∈ es, IsBare e.1 ∧ IsScalar e.2) : ∀ ws ∈ elements path ts, ∀ w ∈ ws, w.IsPlain :=
  List.forall_mem_map.mpr fun es hes => List.forall_mem_cons.mpr ⟨hp, isPlain_entries (h es hes)⟩

lemma isScalar_planTable (c : Config) : ∀ e ∈ c.planTable, IsBare e.1 ∧ IsScalar e.2 := by
  have hperiod := c.plan.periodMs.toNat_lt
  have hoffset := c.plan.waveformOffset.toNat_lt
  have hprobe := c.probeIndex.toInt_lt
  have hprobe' := c.probeIndex.le_toInt
  simp only [planTable, List.forall_mem_cons, List.not_mem_nil, false_implies, implies_true, and_true]
  exact ⟨⟨by decide, isScalar_integer (by omega) (by omega)⟩, ⟨by decide, isScalar_integer (by omega) (by omega)⟩,
    ⟨by decide, isScalar_integer (by omega) (by omega)⟩, ⟨by decide, isScalar_boolean _⟩⟩

lemma isScalar_sideTables {v : Vector ChannelCalibration 4} (h : v.all ChannelCalibration.isValid = true) :
    ∀ es ∈ sideTables v, ∀ e ∈ es, IsBare e.1 ∧ IsScalar e.2 :=
  forall_mem_sideTables fun ch hch => by
    have hvalid := Vector.all_eq_true'.mp h ch hch
    simp only [ChannelCalibration.isValid, Bool.and_eq_true] at hvalid
    simp only [channelEntries, List.forall_mem_cons, List.not_mem_nil, false_implies, implies_true, and_true]
    exact ⟨⟨by decide, isScalar_real hvalid.1.1⟩, ⟨by decide, isScalar_real hvalid.2⟩⟩

lemma isPlain_parts (h : c.calibration.isValid = true) : ∀ ws ∈ c.parts, ∀ w ∈ ws, w.IsPlain := by
  obtain ⟨hf, hr⟩ := Bool.and_eq_true_iff.mp h
  have hbare : IsBare "device" := by decide
  have hdevice : ∀ e ∈ [("device", Value.string c.device)], IsBare e.1 ∧ IsScalar e.2 :=
    List.forall_mem_singleton.mpr ⟨hbare, isScalar_string _⟩
  have hheader : (Written.header ["acquisition"]).IsPlain := ⟨by decide, by decide, by decide⟩
  have hfwd : (Written.element ["calibration", "fwd"]).IsPlain := ⟨by decide, by decide, by decide⟩
  have hrfl : (Written.element ["calibration", "rfl"]).IsPlain := ⟨by decide, by decide, by decide⟩
  rw [parts, List.forall_mem_cons, List.forall_mem_cons, List.forall_mem_append]
  refine ⟨isPlain_entries hdevice, ?_, ?_, ?_⟩
  · exact List.forall_mem_cons.mpr ⟨hheader, isPlain_entries (isScalar_planTable c)⟩
  · exact isPlain_elements hfwd (isScalar_sideTables hf)
  · exact isPlain_elements hrfl (isScalar_sideTables hr)

end Values

section Fields

lemma readInteger_of_mem {low high n : Int} (hl : low ≤ n) (hh : n ≤ high) :
    readInteger low high (.integer n) = some n :=
  if_pos ⟨hl, hh⟩

lemma ofInt_toNat_64 (x : UInt64) : UInt64.ofInt x.toNat = x := by
  have hx := x.toNat_lt
  rw [UInt64.ofInt, Int.emod_eq_of_lt (by omega) (by omega), Int.toNat_natCast, UInt64.ofNat_toNat]

lemma ofInt_toNat_32 (x : UInt32) : UInt32.ofInt x.toNat = x := by
  have hx := x.toNat_lt
  rw [UInt32.ofInt, Int.emod_eq_of_lt (by omega) (by omega), Int.toNat_natCast, UInt32.ofNat_toNat]

lemma readAcquisition_planTable (c : Config) : readAcquisition (.table c.planTable) = some (c.plan, c.probeIndex) := by
  have hperiod : readInteger 0 18446744073709551615 (.integer c.plan.periodMs.toNat) =
      some (c.plan.periodMs.toNat : Int) :=
    readInteger_of_mem (by omega) (by have := c.plan.periodMs.toNat_lt; omega)
  have hprobe : readInteger (-9223372036854775808) 9223372036854775807 (.integer c.probeIndex.toInt) =
      some c.probeIndex.toInt :=
    readInteger_of_mem c.probeIndex.le_toInt (Int.le_of_lt_add_one c.probeIndex.toInt_lt)
  have hoffset : readInteger 0 4294967295 (.integer c.plan.waveformOffset.toNat) =
      some (c.plan.waveformOffset.toNat : Int) :=
    readInteger_of_mem (by omega) (by have := c.plan.waveformOffset.toNat_lt; omega)
  have hfields : isFields planNames (.table c.planTable) = true := rfl
  -- the tables as printed have every field, so none of the defaults is used
  have hp : field planNames "period_ms" (.table c.planTable) = some (.integer c.plan.periodMs.toNat) := rfl
  have hi : field planNames "probe_index" (.table c.planTable) = some (.integer c.probeIndex.toInt) := rfl
  have ho : field planNames "waveform_offset" (.table c.planTable) = some (.integer c.plan.waveformOffset.toNat) := rfl
  have hh : field planNames "ready_handshake" (.table c.planTable) = some (.boolean c.plan.handshake) := rfl
  rw [readAcquisition, if_pos hfields, hp, hi, ho, hh]
  simp only [orDefault, hperiod, hprobe, hoffset, readBoolean, bind, Option.bind_some, ofInt_toNat_64, ofInt_toNat_32,
    Int64.ofInt_toInt]

lemma readSide_sideTables (v : Vector ChannelCalibration 4) : readSide (.array ((sideTables v).map .table)) = some v := by
  obtain ⟨⟨l⟩, hl⟩ := v
  match l, hl with
  | [a, b, c, d], _ => rfl

lemma readCalibration_sideTables (calibration : Calibration) :
    readCalibration (.table [("fwd", .array ((sideTables calibration.forward).map .table)),
      ("rfl", .array ((sideTables calibration.reflected).map .table))]) = some calibration := by
  have hforward := readSide_sideTables calibration.forward
  have hreflected := readSide_sideTables calibration.reflected
  have hfields (v w : Value) : isFields sideNames (.table [("fwd", v), ("rfl", w)]) = true := rfl
  have hf (v w : Value) : field sideNames "fwd" (.table [("fwd", v), ("rfl", w)]) = some v := rfl
  have hr (v w : Value) : field sideNames "rfl" (.table [("fwd", v), ("rfl", w)]) = some w := rfl
  simp only [readCalibration, hfields, hf, hr, if_true, orDefault, hforward, hreflected, bind, Option.bind_some]

theorem ofTable?_toTable (c : Config) : ofTable? c.toTable = some c := by
  have hplan := readAcquisition_planTable c
  have hcalibration := readCalibration_sideTables c.calibration
  have hsound : othersSound ["device", "acquisition", "calibration"] c.toTable = true := rfl
  have hd : c.toTable.lookup "device" = some (.string c.device) := rfl
  have ha : c.toTable.lookup "acquisition" = some (.table c.planTable) := rfl
  have hc : c.toTable.lookup "calibration" = some (.table [
      ("fwd", .array ((sideTables c.calibration.forward).map .table)),
      ("rfl", .array ((sideTables c.calibration.reflected).map .table))]) := by
    rw [toTable_eq]
    rfl
  rw [ofTable?, if_pos hsound, hd, ha, hc]
  simp only [orDefault, readString, hplan, hcalibration, bind, Option.bind_some]

end Fields

theorem read_toText (h : c.calibration.isValid = true) : read c.toText = .ok c.toTable := by
  obtain ⟨here, ha⟩ := applyAll_parts c
  have hread := read_document (isPlain_parts h) ha
  rwa [closeEntries_documentEntries, ← print_toTable] at hread

lemma ofText_of_read {text : String} (hr : read text = .ok c.toTable) (h : c.validate = .ok ()) : ofText text = .ok c := by
  rw [ofText, hr]
  simp only [ofTable, ofTable?_toTable, h]
  rfl

/-- A valid configuration is read back from its text as it was, whatever its values. -/
theorem ofText_toText (c : Config) (h : c.validate = .ok ()) : ofText c.toText = .ok c :=
  ofText_of_read (read_toText (isValid_of_validate h)) h

def extreme : Config where
  device := "\"rf\\board\"\n\x07"
  plan := { periodMs := 18446744073709551615, waveformOffset := 4294967292, handshake := true }
  probeIndex := -9223372036854775808
  calibration := .standard

theorem ofText_toText_extreme : extreme.validate = .ok () ∧ ofText extreme.toText = .ok extreme :=
  have h : extreme.validate = .ok () := by decide +kernel
  ⟨h, ofText_toText extreme h⟩

def longPeriod : Config := { standard with plan := { periodMs := 9223372036854775808 } }

theorem longPeriod_survives :
    longPeriod.validate = .ok () ∧ 2 ^ 63 - 1 < longPeriod.plan.periodMs.toNat ∧
      ((read longPeriod.toText).toOption.bind (·.lookup "acquisition")) = some (.table longPeriod.planTable) ∧
      ofText longPeriod.toText = .ok longPeriod := by
  have h : longPeriod.validate = .ok () := by decide +kernel
  have hr := read_toText (isValid_of_validate h)
  refine ⟨h, by decide, ?_, ofText_of_read hr h⟩
  rw [hr]
  rfl

end RfBoard.Config
