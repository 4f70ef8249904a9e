/-
Whose a volume is. A store says it in the path of the volume, by the number of the instance between two marks
that are no digits, so a path names one instance at most. Disks are moved and grow only where the instance of
the plan owns what is there, and therefore no two instances ever do so with one volume
(`volume_owned_once`).
-/
import Mathlib
import Steward.Proofs.RetunedDrive

namespace Steward

namespace Disk

/-- The two forms of a path that names its owner. -/
theorem pathOwnedBy_iff {path : String} {id : UInt32} :
    pathOwnedBy path id = true ↔
      ∃ rest, path.toList = "vm-".toList ++ ((Text.decimal id.toNat).toList ++ '-' :: rest) ∨
        path.toList = (Text.decimal id.toNat).toList ++
          '/' :: ("vm-".toList ++ ((Text.decimal id.toNat).toList ++ '-' :: rest)) := by
  simp only [pathOwnedBy, Text.startsWith, Bool.or_eq_true, List.isPrefixOf_iff_prefix, List.IsPrefix,
    String.toList_append, exists_or]
  refine or_congr (exists_congr fun rest => ?_) (exists_congr fun rest => ?_)
  · simp [eq_comm]
  · simp [eq_comm]

theorem pathOwnedBy_unique {path : String} {a b : UInt32} (ha : pathOwnedBy path a = true)
    (hb : pathOwnedBy path b = true) : a = b := by
  have hdash : '-'.isDigit = false := by decide
  have hslash : '/'.isDigit = false := by decide
  -- the directory of an owner begins with a digit, the volume itself does not
  have hforms {n : Nat} {r s : List Char} (h : "vm-".toList ++ r = (Text.decimal n).toList ++ s) : False := by
    cases hn : (Text.decimal n).toList with
    | nil => exact Text.decimal_ne_empty n hn
    | cons c digits =>
      rw [hn] at h
      obtain rfl : 'v' = c := (List.cons.inj h).1
      exact absurd (Text.isDigit_of_mem_decimal (n := n) (c := 'v') (by simp [hn])) (by decide)
  obtain ⟨r, ha | ha⟩ := pathOwnedBy_iff.1 ha <;> obtain ⟨s, hb | hb⟩ := pathOwnedBy_iff.1 hb
  · exact UInt32.toNat_inj.1
      (Text.decimal_append_inj hdash hdash (List.append_cancel_left (ha.symm.trans hb)))
  · exact (hforms (ha.symm.trans hb)).elim
  · exact (hforms (hb.symm.trans ha)).elim
  · exact UInt32.toNat_inj.1 (Text.decimal_append_inj hslash hslash (ha.symm.trans hb))

theorem isOwnedBy_iff {disk : Disk} {id : UInt32} :
    disk.isOwnedBy id = true ↔ ∃ path, disk.path = some path ∧ pathOwnedBy path id = true :=
  Option.any_eq_true _ _

/-- One volume, wherever it is attached: one path in one store. -/
structure SameVolume (d e : Disk) : Prop where
  store : d.datastore = e.datastore
  path : d.path = e.path

/-- Volumes of one owner at most, and of the same one where they are the same. -/
theorem SameVolume.owner_unique {d e : Disk} (h : d.SameVolume e) {a b : UInt32} (ha : d.isOwnedBy a = true)
    (hb : e.isOwnedBy b = true) : a = b := by
  obtain ⟨path, hp, ha⟩ := isOwnedBy_iff.1 ha
  obtain ⟨other, ho, hb⟩ := isOwnedBy_iff.1 hb
  obtain rfl : path = other := Option.some.inj (hp.symm.trans (h.path.trans ho))
  exact pathOwnedBy_unique ha hb

/-- Where no store has a colon in its name, an allocated volume is known from its text. -/
theorem sameVolume_of_volume_eq {d e : Disk} (hd : ':' ∉ d.datastore.toList) (he : ':' ∉ e.datastore.toList)
    (hp : d.path.isSome = true) (hq : e.path.isSome = true) (h : d.volume = e.volume) : d.SameVolume e := by
  obtain ⟨path, hpath⟩ := Option.isSome_iff_exists.1 hp
  obtain ⟨other, hother⟩ := Option.isSome_iff_exists.1 hq
  have htext (store path : String) :
      (store ++ ":" ++ path).toList = store.toList ++ ':' :: path.toList := by
    simp [String.toList_append]
  have hcut := congrArg (fun text : String => Text.cutAt ':' text.toList) h
  simp only [volume, hpath, hother, htext, Text.cutAt_append hd, Text.cutAt_append he, Option.some.injEq,
    Prod.mk.injEq, String.toList_inj] at hcut
  exact ⟨hcut.1, by rw [hpath, hother, hcut.2]⟩

end Disk

/-- The name of a store ends before the first colon of the volume. -/
theorem Drive.colon_not_mem_place (volume : String) : ':' ∉ (place volume).1.toList := by
  rw [place, Text.cut]
  cases hcut : Text.cutAt ':' volume.toList with
  | none => exact Text.cutAt_eq_none_iff.1 hcut
  | some parts =>
    rw [Option.map_some, String.toList_ofList]
    exact (Text.cutAt_eq_some hcut).2

theorem Remote.colon_not_mem_store {remote : Remote} {identity : Identity} {status : Status}
    {observed : Observed} (ho : remote.observe identity status = .ok observed) {slot : String} {disk : Disk}
    (hd : observed.config.disks.get? slot = some disk) : ':' ∉ disk.datastore.toList := by
  obtain ⟨-, text, drive, -, hread, -, rfl⟩ := (get?_disks_of_observe ho).1 hd
  obtain ⟨volume, size, -, -, rfl⟩ := Drive.ofText_eq_ok_iff.1 hread
  exact Drive.colon_not_mem_place volume

/-- That a plan moves the disk in a slot or makes it grow. -/
def DiskPlan.ActsOn (p : DiskPlan) (slot : String) : Prop :=
  ∃ i ∈ p.steps, (∃ store removed, i.op = .moveDisk slot store removed) ∨ ∃ size, i.op = .resizeDisk slot size

namespace Plan

/-- What a plan moves or makes grow is there, and belongs to the instance of the plan. -/
theorem owned_of_actsOn {id : UInt32} {desired observed : Dict Disk} {slot : String}
    (h : (planDisks id desired observed).ActsOn slot) :
    ∃ found, observed.get? slot = some found ∧ found.isOwnedBy id = true := by
  obtain ⟨i, hi, hop⟩ := h
  rcases List.mem_append.1 hi with hi | hi
  · rcases List.mem_append.1 hi with hi | hi
    · obtain ⟨field, param, value, reason, rfl, -⟩ := mem_updates_planDisks hi
      rcases hop with ⟨store, removed, hop⟩ | ⟨size, hop⟩ <;> cases hop
    · obtain ⟨own, want, found, -, hfound, hmoves, rfl⟩ := mem_moves_planDisks_iff.1 hi
      rcases hop with ⟨store, removed, hop⟩ | ⟨size, hop⟩
      · cases hop
        exact ⟨found, hfound, hmoves.2⟩
      · cases hop
  · obtain ⟨own, want, found, -, hfound, hgrows, rfl⟩ := mem_resizes_planDisks_iff.1 hi
    rcases hop with ⟨store, removed, hop⟩ | ⟨size, hop⟩
    · cases hop
    · cases hop
      exact ⟨found, hfound, hgrows.2.2⟩

/-- A volume has one owner at most. So of the plans for two instances, whatever is declared and found, no two
move one volume or make it grow; in what is observed of them, volumes are the same already if they are
written alike. -/
theorem volume_owned_once :
    (∀ (disk : Disk) (a b : UInt32), disk.isOwnedBy a = true → disk.isOwnedBy b = true → a = b) ∧
    (∀ (a b : UInt32) (desired desired' observed observed' : Dict Disk) (slot slot' : String) (d e : Disk),
      observed.get? slot = some d → observed'.get? slot' = some e → d.SameVolume e →
      (planDisks a desired observed).ActsOn slot → (planDisks b desired' observed').ActsOn slot' → a = b) ∧
    ∀ (remote remote' : Remote) (identity identity' : Identity) (status status' : Status)
      (observed observed' : Observed), remote.observe identity status = .ok observed →
      remote'.observe identity' status' = .ok observed' →
      ∀ (desired desired' : Dict Disk) (slot slot' : String) (d e : Disk),
        observed.config.disks.get? slot = some d → observed'.config.disks.get? slot' = some e →
        d.volume = e.volume → (planDisks identity.id desired observed.config.disks).ActsOn slot →
        (planDisks identity'.id desired' observed'.config.disks).ActsOn slot' →
        identity.id = identity'.id := by
  have hplans {a b : UInt32} {desired desired' observed observed' : Dict Disk} {slot slot' : String} {d e : Disk}
      (hd : observed.get? slot = some d) (he : observed'.get? slot' = some e)
      (ha : (planDisks a desired observed).ActsOn slot) (hb : (planDisks b desired' observed').ActsOn slot') :
      d.isOwnedBy a = true ∧ e.isOwnedBy b = true := by
    obtain ⟨found, hfound, howned⟩ := owned_of_actsOn ha
    obtain ⟨other, hother, howned'⟩ := owned_of_actsOn hb
    obtain rfl : found = d := Option.some.inj (hfound.symm.trans hd)
    obtain rfl : other = e := Option.some.inj (hother.symm.trans he)
    exact ⟨howned, howned'⟩
  have hallocated {disk : Disk} {id : UInt32} (h : disk.isOwnedBy id = true) : disk.path.isSome = true := by
    obtain ⟨path, hpath, -⟩ := Disk.isOwnedBy_iff.1 h
    rw [hpath]
    rfl
  refine ⟨fun disk a b => Disk.SameVolume.owner_unique ⟨rfl, rfl⟩, ?_, ?_⟩
  · intro a b desired desired' observed observed' slot slot' d e hd he hsame ha hb
    obtain ⟨howned, howned'⟩ := hplans hd he ha hb
    exact hsame.owner_unique howned howned'
  · intro remote remote' identity identity' status status' observed observed' ho ho' desired desired' slot slot'
      d e hd he hvolume ha hb
    obtain ⟨howned, howned'⟩ := hplans hd he ha hb
    have hsame : d.SameVolume e := Disk.sameVolume_of_volume_eq (Remote.colon_not_mem_store ho hd)
      (Remote.colon_not_mem_store ho' he) (hallocated howned) (hallocated howned') hvolume
    exact hsame.owner_unique howned howned'

/-- The disk of instance 100 grows and moves for that instance, and for no other one. -/
theorem volume_owned_once_archive : (planDisks 100 archiveDisks archiveDisksFound).ActsOn "scsi0" ∧
    ∀ id, id ≠ 100 → ¬(planDisks id archiveDisks archiveDisksFound).ActsOn "scsi0" := by
  obtain ⟨found, hfound⟩ : ∃ found, archiveDisksFound.get? "scsi0" = some found := ⟨_, rfl⟩
  have hmoves : (planDisks 100 archiveDisks archiveDisksFound).ActsOn "scsi0" :=
    ⟨⟨.moveDisk "scsi0" "fast" true, .diskMigration, .nothing⟩, by decide +kernel, .inl ⟨_, _, rfl⟩⟩
  exact ⟨hmoves, fun id hid hacts => hid (volume_owned_once.2.1 id 100 archiveDisks archiveDisks archiveDisksFound
    archiveDisksFound "scsi0" "scsi0" found found hfound hfound ⟨rfl, rfl⟩ hacts hmoves)⟩

end Plan

end Steward
