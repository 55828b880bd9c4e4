import ArcadiaTio.Ocb.CompactL2.ManifestCertification

/-!
# The events of a certified manifest

An event of a day is a channel with a BizIndex.  The rows that a manifest describes channel by
channel are every event that it claims, each of them once (`eventsOnce_of_describes`), whatever its
scope, and none of its counts is a saturated sum (`countsFit_of_describes`).  These are the rows of
the artifacts when the manifest is certified with the scan, in either layout (`certified_events`).
-/

namespace ArcadiaTio.Ocb

open ArcadiaTio.Lib

/-! ### Events -/

/-- The channel and the BizIndex of a row. -/
def CompactL2Scalars.key (row : CompactL2Scalars) : ℤ × ℤ := (row.channelId, row.bizIndex)

/-- The entry of a channel claims an event. -/
def ChannelArtifactEntryV1.Claims (c : ChannelArtifactEntryV1) (key : ℤ × ℤ) : Prop :=
  key.1 = c.channelId.toNat ∧ c.firstBizIndex.toNat ≤ key.2 ∧ key.2 ≤ c.lastBizIndex.toNat

/-- The rows are the events that the manifest claims, each of them once. -/
structure ChannelShardedManifestFactsV1.EventsOnce (m : ChannelShardedManifestFactsV1)
    (rows : List CompactL2Scalars) : Prop where
  nodup : (rows.map CompactL2Scalars.key).Nodup
  mem_keys : ∀ key, key ∈ rows.map CompactL2Scalars.key ↔ ∃ channel ∈ m.channels,
    channel.Claims key
  tradingDay : ∀ row ∈ rows, row.dayKey = m.tradingDay.toNat
  length : rows.length = m.rowTotal
  dense : ∀ channel ∈ m.channels, channel.firstBizIndex.toNat + channel.rowCount.toNat =
    channel.lastBizIndex.toNat + 1

section Channel

variable {channel : ChannelArtifactFactsV1} {tradingDay : UInt32} {rows : List CompactL2Scalars}
  (h : channel.Describes tradingDay rows)

include h

/-- The keys of described rows count up from the first one. -/
lemma ChannelArtifactFactsV1.Describes.keys : rows.map CompactL2Scalars.key =
    (List.range rows.length).map fun i : ℕ =>
      ((channel.channelId.toNat : ℤ), (channel.firstBizIndex.toNat + i : ℤ)) := by
  refine List.ext_getElem (by simp) fun i hi hi' => ?_
  rw [List.length_map] at hi
  rw [List.getElem_map, List.getElem_map, List.getElem_range, CompactL2Scalars.key,
    h.channelId _ (List.getElem_mem hi), h.bizIndex i _ (List.getElem?_eq_getElem hi)]

lemma ChannelArtifactFactsV1.Describes.nodup_keys : (rows.map CompactL2Scalars.key).Nodup := by
  rw [h.keys]
  refine List.nodup_range.map fun i j hij => ?_
  have hsame := congrArg Prod.snd hij
  dsimp only at hsame
  omega

lemma ChannelArtifactFactsV1.Describes.mem_keys (key : ℤ × ℤ) :
    key ∈ rows.map CompactL2Scalars.key ↔ channel.Claims key := by
  have hspan := h.span
  rw [h.keys, List.mem_map, ChannelArtifactEntryV1.Claims]
  constructor
  · rintro ⟨i, hi, rfl⟩
    rw [List.mem_range] at hi
    dsimp only
    omega
  · rintro ⟨hchannel, hfirst, hlast⟩
    refine ⟨(key.2 - channel.firstBizIndex.toNat).toNat, List.mem_range.mpr (by omega), ?_⟩
    ext
    · exact hchannel.symm
    · dsimp only
      omega

/-- A channel has no more orders or trades than rows. -/
lemma ChannelArtifactFactsV1.Describes.recorded_le :
    (∀ order ∈ channel.orderRecordCount, order.toNat ≤ channel.rowCount.toNat) ∧
    (∀ trade ∈ channel.tradeRecordCount, trade.toNat ≤ channel.rowCount.toNat) ∧
    ∀ order ∈ channel.orderRecordCount, ∀ trade ∈ channel.tradeRecordCount,
      order.toNat + trade.toNat ≤ channel.rowCount.toNat := by
  have hboth : rows.countP (·.recordKind = 1) + rows.countP (·.recordKind = 2) ≤ rows.length := by
    clear h
    induction rows with
    | nil => rfl
    | cons row rest ih =>
      rw [List.countP_cons, List.countP_cons, List.length_cons]
      by_cases hkind : row.recordKind = 1
      · simp [hkind]
        omega
      · by_cases hkind' : row.recordKind = 2 <;> simp [hkind, hkind'] <;> omega
  rw [h.rowCount] at hboth
  refine ⟨fun order horder => ?_, fun trade htrade => ?_, fun order horder trade htrade => ?_⟩
  · have := h.orderRecordCount order horder
    omega
  · have := h.tradeRecordCount trade htrade
    omega
  · have := h.orderRecordCount order horder
    have := h.tradeRecordCount trade htrade
    omega

end Channel

/-! ### All channels -/

section Manifest

variable {channels : List ChannelArtifactFactsV1} {tradingDay : UInt32}
  {groups : List (List CompactL2Scalars)}

/-- The keys of channels that are sorted differ from channel to channel. -/
lemma keys_flatten
    (h : List.Forall₂ (fun channel rows => channel.Describes tradingDay rows) channels groups)
    (hids : (channels.map (·.channelId.toNat)).Pairwise (· < ·)) :
    (groups.flatten.map CompactL2Scalars.key).Nodup ∧
      ∀ key, key ∈ groups.flatten.map CompactL2Scalars.key ↔
        ∃ channel ∈ channels, channel.Claims key := by
  induction h with
  | nil => simp
  | @cons channel rows rest restGroups hrows _ ih =>
    rw [List.map_cons, List.pairwise_cons] at hids
    obtain ⟨hnodup, hmem⟩ := ih hids.2
    rw [List.flatten_cons, List.map_append]
    refine ⟨List.nodup_append'.mpr ⟨hrows.nodup_keys, hnodup, ?_⟩, fun key => ?_⟩
    · intro key hkey hkey'
      obtain ⟨other, hother, hclaims⟩ := (hmem key).mp hkey'
      have hlt := hids.1 _ (List.mem_map_of_mem hother)
      have hfirst := ((hrows.mem_keys key).mp hkey).1
      have hsecond := hclaims.1
      omega
    · rw [List.mem_append, hmem, hrows.mem_keys]
      simp

lemma length_flatten_describes
    (h : List.Forall₂ (fun channel rows => channel.Describes tradingDay rows) channels groups) :
    groups.flatten.length = (channels.map (·.rowCount.toNat)).sum := by
  induction h with
  | nil => rfl
  | cons hrows _ ih =>
    rw [List.flatten_cons, List.length_append, ih, hrows.rowCount, List.map_cons, List.sum_cons]

/-- Described rows are every event of the manifest once. -/
lemma eventsOnce_of_describes {m : ChannelShardedManifestFactsV1}
    (hvalid : m.entries.validate = .ok ())
    (h : List.Forall₂ (fun channel rows => channel.Describes m.tradingDay rows) m.channels
      groups) : m.EventsOnce groups.flatten := by
  obtain ⟨totals, haccepted⟩ := ChannelShardedManifestV1.accepted_of_validate hvalid
  have hids : (m.channels.map (·.channelId.toNat)).Pairwise (· < ·) := by
    have hentries := haccepted.accounts.ids
    rwa [ChannelShardedManifestFactsV1.entries, List.map_map] at hentries
  obtain ⟨hnodup, hmem⟩ := keys_flatten h hids
  refine ⟨hnodup, hmem, fun row hrow => ?_, length_flatten_describes h, fun channel hchannel => ?_⟩
  · obtain ⟨rows, hrows, hrow⟩ := List.mem_flatten.mp hrow
    obtain ⟨channel, -, hdescribes⟩ := exists_of_forall₂ h hrows
    exact hdescribes.tradingDay row hrow
  · obtain ⟨rows, -, hdescribes⟩ := exists_of_forall₂ h.flip hchannel
    rw [← hdescribes.rowCount]
    exact hdescribes.span

/-- Recorded counts that are at most the row counts. -/
lemma sum_recordedCounts_le {count : ChannelArtifactEntryV1 → Option UInt64}
    {cs : List ChannelArtifactEntryV1}
    (h : ∀ c ∈ cs, ∀ n ∈ count c, n.toNat ≤ c.rowCount.toNat) :
    (recordedCounts count cs).sum ≤ (cs.map (·.rowCount.toNat)).sum := by
  induction cs with
  | nil => exact le_rfl
  | cons c rest ih =>
    rw [List.forall_mem_cons] at h
    have hrest := ih h.2
    rw [recordedCounts] at hrest ⊢
    rw [List.filterMap_cons, List.map_cons, List.sum_cons]
    cases hcount : count c with
    | none => exact hrest.trans (Nat.le_add_left _ _)
    | some n =>
      have hle := h.1 n hcount
      simp only [Option.map_some, List.sum_cons]
      omega

/-- What describes rows is compared in exact arithmetic. -/
lemma countsFit_of_describes {m : ChannelShardedManifestFactsV1}
    (hvalid : m.entries.validate = .ok ())
    (h : List.Forall₂ (fun channel rows => channel.Describes m.tradingDay rows) m.channels
      groups) : m.entries.CountsFit := by
  obtain ⟨totals, haccepted⟩ := ChannelShardedManifestV1.accepted_of_validate hvalid
  have hlt := haccepted.rowCounts_lt
  have hall : ∀ c ∈ m.entries.channels, ∃ rows, ∃ channel : ChannelArtifactFactsV1,
      channel.toChannelArtifactEntryV1 = c ∧ channel.Describes m.tradingDay rows := by
    intro c hc
    obtain ⟨channel, hchannel, rfl⟩ := List.mem_map.mp hc
    obtain ⟨rows, -, hdescribes⟩ := exists_of_forall₂ h.flip hchannel
    exact ⟨rows, channel, rfl, hdescribes⟩
  refine ⟨?_, fun _ => ?_, fun _ => ?_⟩
  · intro c hc order trade horder htrade
    obtain ⟨rows, channel, rfl, hdescribes⟩ := hall c hc
    exact (hdescribes.recorded_le.2.2 order horder trade htrade).trans_lt
      channel.rowCount.toNat_lt
  · refine (sum_recordedCounts_le fun c hc n hn => ?_).trans_lt hlt
    obtain ⟨rows, channel, rfl, hdescribes⟩ := hall c hc
    exact hdescribes.recorded_le.1 n hn
  · refine (sum_recordedCounts_le fun c hc n hn => ?_).trans_lt hlt
    obtain ⟨rows, channel, rfl, hdescribes⟩ := hall c hc
    exact hdescribes.recorded_le.2.1 n hn

end Manifest

/-! ### Certified manifests -/

section Certified

variable {State : Type} {context : CertificationContext State} {m : ChannelShardedManifestFactsV1}
  {options : CertificationOptions} {options' : CompactL2PhysicalV2ManifestCertificationOptions}

/-- The rows of each channel, and that they are those that the manifest describes. -/
def ChannelShardedManifestFactsV1.Keeps (m : ChannelShardedManifestFactsV1)
    (holds : ChannelArtifactFactsV1 → List CompactL2Scalars → Prop)
    (groups : List (List CompactL2Scalars)) : Prop :=
  List.Forall₂ (fun channel rows => holds channel rows ∧ channel.Describes m.tradingDay rows)
    m.channels groups

/-- The artifact of a channel in version 1 holds the rows. -/
def KeepsPayloadRows (context : CertificationContext State) (options : CertificationOptions)
    (channel : ChannelArtifactFactsV1) (rows : List CompactL2Scalars) : Prop :=
  ∃ artifact column groups, HoldsPayloads context channel options artifact column groups ∧
    rows = payloadRows groups

/-- The artifact of a channel in physical version 2 holds the rows. -/
def KeepsLaneRows (context : CertificationContext State) (tradingDay : UInt32)
    (options : CompactL2PhysicalV2ManifestCertificationOptions) (channel : ChannelArtifactFactsV1)
    (rows : List CompactL2Scalars) : Prop :=
  ∃ artifact metadata plan certification views hash, HoldsLanes context tradingDay channel options
    artifact metadata plan certification views hash ∧ rows = scalarsOf views

/-- The rows of the artifacts are every event of the manifest once, and its counts are exact. -/
lemma events_of_keeps {ρ : Type} {reports : List ρ} (hvalid : m.entries.validate = .ok ())
    {holds : ChannelArtifactFactsV1 → List CompactL2Scalars → Prop}
    (h : List.Forall₂ (fun channel (_ : ρ) => ∃ rows, holds channel rows ∧
      channel.Describes m.tradingDay rows) m.channels reports) :
    ∃ groups, m.Keeps holds groups ∧ m.EventsOnce groups.flatten ∧ m.entries.ExactArithmetic := by
  obtain ⟨groups, hgroups⟩ := exists_forall₂ h
  have hkeeps : m.Keeps holds groups := hgroups.imp fun channel rows ⟨_, hrows⟩ => hrows
  have hdescribes := hkeeps.imp fun channel rows hrows => hrows.2
  obtain ⟨totals, haccepted⟩ := ChannelShardedManifestV1.accepted_of_validate hvalid
  exact ⟨groups, hkeeps, eventsOnce_of_describes hvalid hdescribes,
    haccepted.exactArithmetic (countsFit_of_describes hvalid hdescribes)⟩

/-- When a manifest is certified with the scan, in either layout, the rows of its artifacts are every
event that it claims, each of them once, and its counts are exact: no channel leaves anything out,
whatever the scope is, and no sum is a saturated one. -/
theorem certified_events
    (hfault : ∀ channel ∈ m.channels, ∀ source,
      context.resolver channel.relativePath = .ok source → source.FaultFree)
    (hverify : options.verifyPayloadHeader = true)
    (hverify' : options'.verifyScalarContinuity = true) :
    (∀ report, CertifiesChannelShardedArtifactV1 context m options (.ok report) →
      ∃ groups, m.Keeps (KeepsPayloadRows context options) groups ∧
        m.EventsOnce groups.flatten ∧ m.entries.ExactArithmetic ∧
        report.rowCount = groups.flatten.length) ∧
    ∀ report', CertifiesCompactL2PhysicalV2Manifest context m options' (.ok report') →
      ∃ groups, m.Keeps (KeepsLaneRows context m.tradingDay options') groups ∧
        m.EventsOnce groups.flatten ∧ m.entries.ExactArithmetic ∧
        report'.rowCount = groups.flatten.length := by
  constructor
  · intro report hcertifies
    obtain ⟨haccepts, reports, hreports, rfl⟩ :=
      (certifiesChannelShardedArtifactV1_eq_ok hfault hverify).mp hcertifies
    obtain ⟨groups, hkeeps, hevents, hexact⟩ := @events_of_keeps m _ reports haccepts.valid
      (KeepsPayloadRows context options) (hreports.imp fun channel r hcertificate => by
        obtain ⟨artifact, column, records, hcertificate⟩ := hcertificate
        exact ⟨_, ⟨artifact, column, records, hcertificate.toHoldsPayloads, rfl⟩,
          hcertificate.describes⟩)
    exact ⟨groups, hkeeps, hevents, hexact, hevents.length.symm⟩
  · intro report' hcertifies
    obtain ⟨haccepts, reports, hreports, rfl⟩ :=
      (certifiesCompactL2PhysicalV2Manifest_eq_ok hfault).mp hcertifies
    obtain ⟨groups, hkeeps, hevents, hexact⟩ := @events_of_keeps m _ reports haccepts.valid
      (KeepsLaneRows context m.tradingDay options') (hreports.imp fun channel r hcertificate => by
        obtain ⟨artifact, metadata, plan, certification, views, hash, hcertificate⟩ := hcertificate
        have hrows := hcertificate.rows
        rw [PhysicalV2ChannelRows, if_pos hverify'] at hrows
        exact ⟨_, ⟨artifact, metadata, plan, certification, views, hash,
          hcertificate.toHoldsLanes, rfl⟩, hrows.2⟩)
    exact ⟨groups, hkeeps, hevents, hexact, hevents.length.symm⟩

end Certified

/-- The manifest of two channels is certified in both layouts, and has each of its events once. -/
theorem certified_events_sample : ∃ sources sources' report report',
    (CertifiesChannelShardedArtifactV1 (Sample.contextOf sources)
        (Sample.pairManifest "compact-fixed-binary-l2-v1") Sample.payloadOptions (.ok report) ∧
      ∃ rows, (Sample.pairManifest "compact-fixed-binary-l2-v1").EventsOnce rows) ∧
    CertifiesCompactL2PhysicalV2Manifest (Sample.contextOf sources')
        (Sample.pairManifest "compact-l2-physical-v2") Sample.lanesOptions (.ok report') ∧
      ∃ rows, (Sample.pairManifest "compact-l2-physical-v2").EventsOnce rows := by
  obtain ⟨t, h, hlanes⟩ := Sample.exists_holdsLanes_recordsOf
  have hfault := fun (channel : ChannelArtifactFactsV1)
    (_ : channel ∈ (Sample.pairManifest "compact-fixed-binary-l2-v1").channels) =>
      Sample.faultFree_contextOf Sample.small_payloadTableOf channel.relativePath
  have hfault' := fun (channel : ChannelArtifactFactsV1)
    (_ : channel ∈ (Sample.pairManifest "compact-l2-physical-v2").channels) =>
      Sample.faultFree_contextOf h channel.relativePath
  obtain ⟨report, hreport⟩ := Sample.exists_certificate false
  obtain ⟨report', hreport'⟩ := Sample.exists_certificate true
  have hcertified := (certifiesChannelShardedArtifactV1_eq_ok hfault rfl).mpr
    ⟨Sample.accepts_payloadOptions, [report, report'], .cons hreport (.cons hreport' .nil), rfl⟩
  obtain ⟨artifact, metadata, plan, certification, hash, hholds⟩ := hlanes false
  obtain ⟨artifact', metadata', plan', certification', hash', hholds'⟩ := hlanes true
  have hcertified' := (certifiesCompactL2PhysicalV2Manifest_eq_ok hfault').mpr
    ⟨Sample.accepts_lanesOptions, [_, _],
      .cons ⟨artifact, metadata, plan, certification, _, hash, hholds,
        Sample.rows_recordsOf false, rfl⟩
      (.cons ⟨artifact', metadata', plan', certification', _, hash', hholds',
        Sample.rows_recordsOf true, rfl⟩ .nil), rfl⟩
  have hscan : Sample.lanesOptions.verifyScalarContinuity = true := rfl
  have hpayload : Sample.payloadOptions.verifyPayloadHeader = true := rfl
  obtain ⟨groups, -, hevents, -⟩ := (certified_events hfault hpayload hscan).1 _ hcertified
  obtain ⟨groups', -, hevents', -⟩ := (certified_events hfault' hpayload hscan).2 _ hcertified'
  exact ⟨_, _, _, _, ⟨hcertified, _, hevents⟩, hcertified', _, hevents'⟩

end ArcadiaTio.Ocb
