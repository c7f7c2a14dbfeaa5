import StackManifest.Proofs.Reading.Parts
import StackManifest.Proofs.RoundTrip.Written

/-!
# The parts of a document, written and read again

Each part is laid out in its own way, with its own fields and names, and is read back because each
of its fields is. The parts are gone through from the inside out.
-/

namespace StackManifest

/-! ### Services -/

theorem ExposeTarget.isLaidOut :
    IsLaidOut [["service"], ["global", "global_"]] ExposeTarget.read
      (fun t => [("service", .ofText? t.service), ("global", .ofOption .bool t.isGlobal)])
      ExposeTarget.extra where
  part := ⟨_, rfl⟩
  heads t := .cons rfl (.cons rfl .nil)
  nodup := by decide
  unknown es t h := (ExposeTarget.read_eq_ok_iff.mp h).2.2
  back es es' t h hes hx := by
    obtain ⟨hs, hg, -⟩ := ExposeTarget.read_eq_ok_iff.mp h
    obtain ⟨hess, hesg⟩ := hes
    obtain ⟨s, hs, hsw⟩ := readsBack_named?.field (v := .null) rfl hs hess
    obtain ⟨g, hg, hgw⟩ :=
      (readsBack_boolean.optional fun _ => nofun).field (v := .null) rfl hg hesg
    exact ⟨⟨s, g, _⟩, ExposeTarget.read_eq_ok_iff.mpr ⟨hs, hg, hx⟩, by simp only [hsw, hgw], rfl⟩

theorem ExposeTarget.readsBack : ReadsBack ExposeTarget.read ExposeTarget.toValue :=
  IsLaidOut.readsBack ExposeTarget.isLaidOut

theorem ExposeRule.isLaidOut :
    IsLaidOut [["port"], ["as", "as_"], ["proto"], ["to"]] ExposeRule.read
      (fun r => [("port", .ofInt? r.port), ("as", .ofInt? r.externalPort),
        ("proto", .ofText? r.protocol), ("to", .array (r.targets.map ExposeTarget.toValue))])
      ExposeRule.extra where
  part := ⟨_, rfl⟩
  heads r := .cons rfl (.cons rfl (.cons rfl (.cons rfl .nil)))
  nodup := by decide
  unknown es r h := (ExposeRule.read_eq_ok_iff.mp h).2.2.2.2
  back es es' r h hes hx := by
    obtain ⟨hp, he, hq, ht, -⟩ := ExposeRule.read_eq_ok_iff.mp h
    obtain ⟨hesp, hese, hesq, hest⟩ := hes
    obtain ⟨p, hp, hpw⟩ := readsBack_integer?.field (v := .null) rfl hp hesp
    obtain ⟨e, he, hew⟩ := readsBack_integer?.field (v := .null) rfl he hese
    obtain ⟨q, hq, hqw⟩ := readsBack_text?.field (v := .null) rfl hq hesq
    obtain ⟨ts, ht, htw⟩ :=
      (ReadsBack.listOrEmpty ExposeTarget.readsBack).field (v := .null) rfl ht hest
    exact ⟨⟨p, e, q, ts, _⟩, ExposeRule.read_eq_ok_iff.mpr ⟨hp, he, hq, ht, hx⟩,
      by simp only [hpw, hew, hqw, htw], rfl⟩

theorem ExposeRule.readsBack : ReadsBack ExposeRule.read ExposeRule.toValue :=
  IsLaidOut.readsBack ExposeRule.isLaidOut

theorem Service.isLaidOut :
    IsLaidOut [["image"], ["expose"], ["env"], ["command"], ["args"]] Service.read
      (fun s => [("image", .ofText? s.image), ("expose", .array (s.expose.map ExposeRule.toValue)),
        ("env", .ofTexts s.env), ("command", .ofOption .ofTexts s.command),
        ("args", .ofOption .ofTexts s.args)])
      Service.extra where
  part := ⟨_, rfl⟩
  heads s := .cons rfl (.cons rfl (.cons rfl (.cons rfl (.cons rfl .nil))))
  nodup := by decide
  unknown es s h := (Service.read_eq_ok_iff.mp h).2.2.2.2.2
  back es es' s h hes hx := by
    obtain ⟨hi, he, hv, hc, hr, -⟩ := Service.read_eq_ok_iff.mp h
    obtain ⟨hesi, hese, hesv, hesc, hesr⟩ := hes
    have htexts? : ReadsBack (Scalar.optional (listOf Scalar.text)) (Value.ofOption .ofTexts) :=
      readsBack_text.listOf.optional fun _ => nofun
    obtain ⟨i, hi, hiw⟩ := readsBack_text?.field (v := .null) rfl hi hesi
    obtain ⟨e, he, hew⟩ := (ReadsBack.listOrEmpty ExposeRule.readsBack).field (v := .null) rfl he hese
    obtain ⟨v, hv, hvw⟩ := readsBack_text.listOrEmpty.field (v := .null) rfl hv hesv
    obtain ⟨c, hc, hcw⟩ := htexts?.field (v := .null) rfl hc hesc
    obtain ⟨r, hr, hrw⟩ := htexts?.field (v := .null) rfl hr hesr
    exact ⟨⟨i, e, v, c, r, _⟩, Service.read_eq_ok_iff.mpr ⟨hi, he, hv, hc, hr, hx⟩,
      by simp only [hiw, hew, hcw, hrw, Value.ofTexts, hvw], rfl⟩

theorem Service.readsBack : ReadsBack Service.read Service.toValue :=
  IsLaidOut.readsBack Service.isLaidOut

/-! ### Compute profiles -/

theorem CpuRequest.isLaidOut :
    IsLaidOut [["units"]] CpuRequest.read (fun c => [("units", .ofText? c.units)])
      CpuRequest.extra where
  part := ⟨_, rfl⟩
  heads c := .cons rfl .nil
  nodup := by decide
  unknown es c h := (CpuRequest.read_eq_ok_iff.mp h).2
  back es es' c h hes hx := by
    obtain ⟨hu, -⟩ := CpuRequest.read_eq_ok_iff.mp h
    obtain ⟨u, hu, huw⟩ := readsBack_named?.field (v := .null) rfl hu hes
    exact ⟨⟨u, _⟩, CpuRequest.read_eq_ok_iff.mpr ⟨hu, hx⟩, by simp only [huw], rfl⟩

theorem CpuRequest.readsBack : ReadsBack CpuRequest.read CpuRequest.toValue :=
  IsLaidOut.readsBack CpuRequest.isLaidOut

theorem MemoryRequest.isLaidOut :
    IsLaidOut [["size"]] MemoryRequest.read (fun m => [("size", .ofText? m.size)])
      MemoryRequest.extra where
  part := ⟨_, rfl⟩
  heads m := .cons rfl .nil
  nodup := by decide
  unknown es m h := (MemoryRequest.read_eq_ok_iff.mp h).2
  back es es' m h hes hx := by
    obtain ⟨hs, -⟩ := MemoryRequest.read_eq_ok_iff.mp h
    obtain ⟨s, hs, hsw⟩ := readsBack_named?.field (v := .null) rfl hs hes
    exact ⟨⟨s, _⟩, MemoryRequest.read_eq_ok_iff.mpr ⟨hs, hx⟩, by simp only [hsw], rfl⟩

theorem MemoryRequest.readsBack : ReadsBack MemoryRequest.read MemoryRequest.toValue :=
  IsLaidOut.readsBack MemoryRequest.isLaidOut

theorem StorageVolume.isLaidOut :
    IsLaidOut [["name"], ["size"], ["attributes"]] StorageVolume.read
      (fun v => [("name", .ofText? v.name), ("size", .ofText? v.size),
        ("attributes", v.attributes.toValue Value.unshared)])
      StorageVolume.extra where
  part := ⟨_, rfl⟩
  heads v := .cons rfl (.cons rfl (.cons rfl .nil))
  nodup := by decide
  unknown es v h := (StorageVolume.read_eq_ok_iff.mp h).2.2.2
  back es es' v h hes hx := by
    obtain ⟨hs, hn, ht, -⟩ := StorageVolume.read_eq_ok_iff.mp h
    obtain ⟨hesn, hess, hest⟩ := hes
    obtain ⟨s, hs, hsw⟩ := readsBack_named?.field (v := .null) rfl hs hess
    obtain ⟨n, hn, hnw⟩ := readsBack_named?.field (v := .null) rfl hn hesn
    obtain ⟨t, ht, htw⟩ := readsBack_kept.tableOf.field (v := .map 0 []) rfl ht hest
    exact ⟨⟨n, s, t, _⟩, StorageVolume.read_eq_ok_iff.mpr ⟨hs, hn, ht, hx⟩,
      by simp only [hsw, hnw, htw], rfl⟩

theorem StorageVolume.readsBack : ReadsBack StorageVolume.read StorageVolume.toValue :=
  IsLaidOut.readsBack StorageVolume.isLaidOut

/-- Volumes are read **one by one** of some values, also a single one that was not in a list. -/
theorem exists_elements_of_readVolumes {v : Value} {vs : List StorageVolume}
    (h : readVolumes v = .ok vs) :
    ∃ xs, List.Forall₂ (fun x w => StorageVolume.read x = .ok w) xs vs := by
  rw [readVolumes.eq_def] at h
  split at h
  · cases h
    exact ⟨[], .nil⟩
  · exact exists_elements_of_listOf h
  · exact exists_elements_of_listOf h

/-- **Volumes** are written as a list, also a single one that was not in a list. -/
theorem readsBack_volumes :
    ReadsBack readVolumes fun vs => .array (vs.map StorageVolume.toValue) := by
  intro v vs hvs
  obtain ⟨xs, hxs⟩ := exists_elements_of_readVolumes hvs
  obtain ⟨vs', hvs', hw⟩ := ReadsBack.forall₂ StorageVolume.readsBack hxs
  exact ⟨vs', (listOf_eq_ok_iff (l := 0)).mpr hvs', congrArg Value.array hw⟩

theorem Resources.isLaidOut :
    IsLaidOut [["cpu"], ["memory"], ["storage"]] Resources.read
      (fun r => [("cpu", .ofOption CpuRequest.toValue r.cpu),
        ("memory", .ofOption MemoryRequest.toValue r.memory),
        ("storage", .array (r.storage.map StorageVolume.toValue))])
      Resources.extra where
  part := ⟨_, rfl⟩
  heads r := .cons rfl (.cons rfl (.cons rfl .nil))
  nodup := by decide
  unknown es r h := (Resources.read_eq_ok_iff.mp h).2.2.2
  back es es' r h hes hx := by
    obtain ⟨hc, hm, hs, -⟩ := Resources.read_eq_ok_iff.mp h
    obtain ⟨hesc, hesm, hess⟩ := hes
    obtain ⟨c, hc, hcw⟩ :=
      (ReadsBack.optional CpuRequest.readsBack fun _ => nofun).field (v := .null) rfl hc hesc
    obtain ⟨m, hm, hmw⟩ :=
      (ReadsBack.optional MemoryRequest.readsBack fun _ => nofun).field (v := .null) rfl hm hesm
    obtain ⟨s, hs, hsw⟩ := ReadsBack.field readsBack_volumes (v := .null) rfl hs hess
    exact ⟨⟨c, m, s, _⟩, Resources.read_eq_ok_iff.mpr ⟨hc, hm, hs, hx⟩,
      by simp only [hcw, hmw, hsw], rfl⟩

theorem Resources.readsBack : ReadsBack Resources.read Resources.toValue :=
  IsLaidOut.readsBack Resources.isLaidOut

theorem ComputeProfile.isLaidOut :
    IsLaidOut [["resources"]] ComputeProfile.read
      (fun p => [("resources", .ofOption Resources.toValue p.resources)])
      ComputeProfile.extra where
  part := ⟨_, rfl⟩
  heads p := .cons rfl .nil
  nodup := by decide
  unknown es p h := (ComputeProfile.read_eq_ok_iff.mp h).2
  back es es' p h hes hx := by
    obtain ⟨hr, -⟩ := ComputeProfile.read_eq_ok_iff.mp h
    obtain ⟨r, hr, hrw⟩ :=
      (ReadsBack.optional Resources.readsBack fun _ => nofun).field (v := .null) rfl hr hes
    exact ⟨⟨r, _⟩, ComputeProfile.read_eq_ok_iff.mpr ⟨hr, hx⟩, by simp only [hrw], rfl⟩

theorem ComputeProfile.readsBack : ReadsBack ComputeProfile.read ComputeProfile.toValue :=
  IsLaidOut.readsBack ComputeProfile.isLaidOut

/-! ### Placement profiles -/

theorem SignedBy.isLaidOut :
    IsLaidOut [["allOf", "all_of"], ["anyOf", "any_of"]] SignedBy.read
      (fun s => [("allOf", .ofTexts s.allOf), ("anyOf", .ofTexts s.anyOf)]) SignedBy.extra where
  part := ⟨_, rfl⟩
  heads s := .cons rfl (.cons rfl .nil)
  nodup := by decide
  unknown es s h := (SignedBy.read_eq_ok_iff.mp h).2.2
  back es es' s h hes hx := by
    obtain ⟨ho, hn, -⟩ := SignedBy.read_eq_ok_iff.mp h
    obtain ⟨heso, hesn⟩ := hes
    have htexts : ReadsBack (listOf Scalar.text) .ofTexts := readsBack_text.listOf
    obtain ⟨o, ho, how⟩ := htexts.field (v := .list 0 []) rfl ho heso
    obtain ⟨n, hn, hnw⟩ := htexts.field (v := .list 0 []) rfl hn hesn
    exact ⟨⟨o, n, _⟩, SignedBy.read_eq_ok_iff.mpr ⟨ho, hn, hx⟩, by simp only [how, hnw], rfl⟩

theorem SignedBy.readsBack : ReadsBack SignedBy.read SignedBy.toValue :=
  IsLaidOut.readsBack SignedBy.isLaidOut

theorem Price.isLaidOut :
    IsLaidOut [["denom"], ["amount"]] Price.read
      (fun p => [("denom", .ofText? p.denom), ("amount", .ofText? p.amount)]) Price.extra where
  part := ⟨_, rfl⟩
  heads p := .cons rfl (.cons rfl .nil)
  nodup := by decide
  unknown es p h := (Price.read_eq_ok_iff.mp h).2.2
  back es es' p h hes hx := by
    obtain ⟨hd, ha, -⟩ := Price.read_eq_ok_iff.mp h
    obtain ⟨hesd, hesa⟩ := hes
    obtain ⟨d, hd, hdw⟩ := readsBack_text?.field (v := .null) rfl hd hesd
    obtain ⟨a, ha, haw⟩ := readsBack_named?.field (v := .null) rfl ha hesa
    exact ⟨⟨d, a, _⟩, Price.read_eq_ok_iff.mpr ⟨hd, ha, hx⟩, by simp only [hdw, haw], rfl⟩

theorem Price.readsBack : ReadsBack Price.read Price.toValue :=
  IsLaidOut.readsBack Price.isLaidOut

/-- **Attributes** are written as texts, which are their own texts. -/
theorem readsBack_attributes : ReadsBack readAttributes (Table.toValue .text) := by
  intro v t ht
  obtain ⟨w, hw⟩ : ∃ w, tableOf Scalar.text w = .ok t := by
    rw [readAttributes.eq_def] at ht
    split at ht
    · cases ht
      exact ⟨.map 0 [], rfl⟩
    · obtain ⟨fs, -, ht⟩ := Checked.bind_eq_ok_iff.mp ht
      exact ⟨_, ht⟩
    · exact ⟨_, ht⟩
  obtain ⟨t', ht', hwrite⟩ := readsBack_text.tableOf w t hw
  refine ⟨t', ?_, hwrite⟩
  have hnames : ((t.toList.map fun e => (e.1, Value.text e.2)).map Prod.fst).Nodup := by
    rw [List.map_map]
    exact t.nodup
  refine Checked.bind_eq_ok_iff.mpr ⟨_, renameKeys_named hnames fun f hf => ?_, ht'⟩
  obtain ⟨e, -, rfl⟩ := List.mem_map.mp hf
  rfl

theorem PlacementProfile.isLaidOut :
    IsLaidOut [["attributes"], ["signedBy", "signed_by"], ["pricing"]] PlacementProfile.read
      (fun p => [("attributes", p.attributes.toValue .text),
        ("signedBy", .ofOption SignedBy.toValue p.signedBy),
        ("pricing", p.pricing.toValue Price.toValue)])
      PlacementProfile.extra where
  part := ⟨_, rfl⟩
  heads p := .cons rfl (.cons rfl (.cons rfl .nil))
  nodup := by decide
  unknown es p h := (PlacementProfile.read_eq_ok_iff.mp h).2.2.2
  back es es' p h hes hx := by
    obtain ⟨ht, hs, hc, -⟩ := PlacementProfile.read_eq_ok_iff.mp h
    obtain ⟨hest, hess, hesc⟩ := hes
    obtain ⟨t, ht, htw⟩ := ReadsBack.field readsBack_attributes (v := .null) rfl ht hest
    obtain ⟨s, hs, hsw⟩ :=
      (ReadsBack.optional SignedBy.readsBack fun _ => nofun).field (v := .null) rfl hs hess
    obtain ⟨c, hc, hcw⟩ :=
      ((ReadsBack.tableOf Price.readsBack).normalized writesNormal_tableOf).field (v := .null) rfl hc hesc
    exact ⟨⟨t, s, c, _⟩, PlacementProfile.read_eq_ok_iff.mpr ⟨ht, hs, hc, hx⟩,
      by simp only [htw, hsw, hcw], rfl⟩

theorem PlacementProfile.readsBack : ReadsBack PlacementProfile.read PlacementProfile.toValue :=
  IsLaidOut.readsBack PlacementProfile.isLaidOut

/-! ### Profiles and deployments -/

theorem Profiles.isLaidOut :
    IsLaidOut [["compute"], ["placement"]] Profiles.read
      (fun p => [("compute", .ofOption (Table.toValue ComputeProfile.toValue) p.compute),
        ("placement", .ofOption (Table.toValue PlacementProfile.toValue) p.placement)])
      Profiles.extra where
  part := ⟨_, rfl⟩
  heads p := .cons rfl (.cons rfl .nil)
  nodup := by decide
  unknown es p h := (Profiles.read_eq_ok_iff.mp h).2.2
  back es es' p h hes hx := by
    obtain ⟨hc, hp, -⟩ := Profiles.read_eq_ok_iff.mp h
    obtain ⟨hesc, hesp⟩ := hes
    obtain ⟨c, hc, hcw⟩ := (ReadsBack.readSection ComputeProfile.readsBack
      (IsLaidOut.writesNormal ComputeProfile.isLaidOut)).field (v := .null) rfl hc hesc
    obtain ⟨p', hp, hpw⟩ := (ReadsBack.readSection PlacementProfile.readsBack
      (IsLaidOut.writesNormal PlacementProfile.isLaidOut)).field (v := .null) rfl hp hesp
    exact ⟨⟨c, p', _⟩, Profiles.read_eq_ok_iff.mpr ⟨hc, hp, hx⟩, by simp only [hcw, hpw], rfl⟩

theorem Profiles.readsBack : ReadsBack Profiles.read Profiles.toValue :=
  IsLaidOut.readsBack Profiles.isLaidOut

theorem DeploymentEntry.isLaidOut :
    IsLaidOut [["profile"], ["count"]] DeploymentEntry.read
      (fun e => [("profile", .ofText? e.profile), ("count", .ofInt? e.count)])
      DeploymentEntry.extra where
  part := ⟨_, rfl⟩
  heads e := .cons rfl (.cons rfl .nil)
  nodup := by decide
  unknown es e h := (DeploymentEntry.read_eq_ok_iff.mp h).2.2
  back es es' e h hes hx := by
    obtain ⟨hp, hc, -⟩ := DeploymentEntry.read_eq_ok_iff.mp h
    obtain ⟨hesp, hesc⟩ := hes
    obtain ⟨p, hp, hpw⟩ := readsBack_named?.field (v := .null) rfl hp hesp
    obtain ⟨c, hc, hcw⟩ := readsBack_integer?.field (v := .null) rfl hc hesc
    exact ⟨⟨p, c, _⟩, DeploymentEntry.read_eq_ok_iff.mpr ⟨hp, hc, hx⟩,
      by simp only [hpw, hcw], rfl⟩

theorem DeploymentEntry.readsBack : ReadsBack DeploymentEntry.read DeploymentEntry.toValue :=
  IsLaidOut.readsBack DeploymentEntry.isLaidOut

theorem Document.isLaidOut :
    IsLaidOut [["version"], ["services"], ["profiles"], ["deployment"]] Document.read
      (fun d => [("version", .ofText? d.version), ("services", d.services.toValue Service.toValue),
        ("profiles", .ofOption Profiles.toValue d.profiles),
        ("deployment", d.deployment.toValue (Table.toValue DeploymentEntry.toValue))])
      Document.extra where
  part := ⟨_, rfl⟩
  heads d := .cons rfl (.cons rfl (.cons rfl (.cons rfl .nil)))
  nodup := by decide
  unknown es d h := (Document.read_eq_ok_iff.mp h).2.2.2.2
  back es es' d h hes hx := by
    obtain ⟨hp, hv, hs, hd, -⟩ := Document.read_eq_ok_iff.mp h
    obtain ⟨hesv, hess, hesp, hesd⟩ := hes
    have hservices := (ReadsBack.tableOf Service.readsBack).normalized
      (IsLaidOut.writesNormal Service.isLaidOut).tableOf
    have hdeployment := (ReadsBack.tableOf DeploymentEntry.readsBack).tableOf.normalized
      (IsLaidOut.writesNormal DeploymentEntry.isLaidOut).tableOf.tableOf
    obtain ⟨v, hv, hvw⟩ := readsBack_named?.field (v := .null) rfl hv hesv
    obtain ⟨s, hs, hsw⟩ := hservices.field (v := .null) rfl hs hess
    obtain ⟨p, hp, hpw⟩ :=
      (ReadsBack.optional Profiles.readsBack fun _ => nofun).field (v := .null) rfl hp hesp
    obtain ⟨t, hd, hdw⟩ := hdeployment.field (v := .null) rfl hd hesd
    exact ⟨⟨v, s, p, t, _⟩, Document.read_eq_ok_iff.mpr ⟨hp, hv, hs, hd, hx⟩,
      by simp only [hvw, hsw, hpw, hdw], rfl⟩

/-- **A document is read back.** -/
theorem Document.readsBack : ReadsBack Document.read Document.toValue :=
  IsLaidOut.readsBack Document.isLaidOut

end StackManifest
