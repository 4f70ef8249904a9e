/-
Drives that are written again with other options. The text names the volume that is there if that volume
names its store and can stand first in a property string, as every volume can that was read from there
(`retuned_volume_kept_iff`). For a volume without a store the text asks for a new one instead.
-/
import Mathlib
import Steward.Proofs.DiskPolicy
import Steward.Proofs.Drive

namespace Steward

open PropertyString

namespace Drive

/-- When a drive is read, and what it is. -/
theorem ofText_eq_ok_iff {slot text : String} {drive : Drive} : ofText slot text = .ok drive ↔
    ∃ volume size, ((PropertyString.ofText text).get? "file" <|> (PropertyString.ofText text).head) = some volume ∧
      sizeGib (PropertyString.ofText text) = .ok size ∧
      drive =
        { volume := volume
          media := (PropertyString.ofText text).get? "media"
          disk :=
            { interface := slot
              diskClass := DiskClass.ofSlot slot
              datastore := (place volume).1
              path := (place volume).2
              sizeGib := size
              format := (PropertyString.ofText text).get? "format"
              source := none
              options := options (PropertyString.ofText text) } } := by
  rw [ofText]
  cases (PropertyString.ofText text).get? "file" <|> (PropertyString.ofText text).head with
  | none => simp
  | some volume =>
    refine Except.map_eq_ok_iff.trans ?_
    constructor
    · rintro ⟨size, hsize, he⟩
      exact ⟨volume, size, rfl, hsize, he.symm⟩
    · rintro ⟨_, size, ⟨⟩, hsize, he⟩
      exact ⟨size, hsize, he.symm⟩

/-- The volume of a text with any first part, of which no pair behind it names one. -/
theorem volume_of_first {head : String} {pairs : List (String × String)} (hc : ',' ∉ head.toList)
    (hne : Text.trim head.toList ≠ []) (h : ArePairs pairs) (hf : lookup? pairs "file" = none) :
    ((PropertyString.ofText (toText ⟨some head, pairs⟩)).get? "file" <|>
      (PropertyString.ofText (toText ⟨some head, pairs⟩)).head) =
      match Text.cutAt '=' (Text.trim head.toList) with
      | none => some (Text.trimmed head)
      | some (key, value) => if key = "file".toList then some (String.ofList value) else none := by
  rw [ofText_toText_head hc hne h]
  cases Text.cutAt '=' (Text.trim head.toList) with
  | none => simp [get?_eq, hf]
  | some pair =>
    have hkey : String.ofList pair.1 = "file" ↔ pair.1 = "file".toList := by
      rw [← String.toList_inj, String.toList_ofList]
    simp only [get?_eq, lookup?_cons, hf, hkey]
    split <;> rfl

/-- A volume is what stands first, unless it is the value of a pair. -/
theorem isHead_or_isValue_volume {slot text : String} {drive : Drive} (h : ofText slot text = .ok drive) :
    IsHead drive.volume ∨ ((PropertyString.ofText text).get? "file" = some drive.volume ∧ IsValue drive.volume) := by
  obtain ⟨volume, size, hvolume, -, rfl⟩ := ofText_eq_ok_iff.1 h
  cases hfile : (PropertyString.ofText text).get? "file" with
  | none =>
    rw [hfile] at hvolume
    exact .inl ((wellFormed_ofText text).head volume hvolume)
  | some file =>
    rw [hfile] at hvolume
    obtain rfl : file = volume := Option.some.inj hvolume
    exact .inr ⟨rfl, isValue_of_get? hfile⟩

theorem comma_not_mem_volume {slot text : String} {drive : Drive} (h : ofText slot text = .ok drive) :
    ',' ∉ drive.volume.toList := by
  rcases isHead_or_isValue_volume h with h | ⟨-, h⟩
  · exact h.2.1
  · exact h.1

theorem format_isValue {slot text : String} {drive : Drive} (h : ofText slot text = .ok drive) :
    ∀ s ∈ drive.disk.format, IsValue s := by
  obtain ⟨volume, size, -, -, rfl⟩ := ofText_eq_ok_iff.1 h
  exact fun s hs => isValue_of_get? hs

/-- A volume with a store is named as it is. -/
theorem head_of_store {slot text : String} {drive : Drive} (h : ofText slot text = .ok drive)
    (hc : ':' ∈ drive.volume.toList) : drive.disk.head = drive.volume := by
  obtain ⟨volume, size, -, -, rfl⟩ := ofText_eq_ok_iff.1 h
  rw [Disk.head]
  dsimp only [place]
  cases hcut : Text.cutAt ':' volume.toList with
  | none => exact absurd hc (Text.cutAt_eq_none_iff.1 hcut)
  | some pair =>
    obtain ⟨store, path⟩ := pair
    have hsplit : Text.cut ':' volume = some (String.ofList store, String.ofList path) := by
      rw [Text.cut, hcut]
      rfl
    have hvolume := (Text.cutAt_eq_some hcut).1
    refine String.toList_inj.1 ?_
    simp [Disk.volume, hsplit, hvolume]

/-- For a volume without a store a new one is asked for, in a store of that name. -/
theorem head_of_bare {slot text : String} {drive : Drive} (h : ofText slot text = .ok drive)
    (hc : ':' ∉ drive.volume.toList) :
    drive.disk.head = drive.volume ++ ":" ++ Text.decimal drive.disk.sizeGib.toNat := by
  obtain ⟨volume, size, -, -, rfl⟩ := ofText_eq_ok_iff.1 h
  have hcut : Text.cutAt ':' volume.toList = none := Text.cutAt_eq_none_iff.2 hc
  rw [Disk.head]
  simp [Disk.volume, place, Text.cut, hcut]

/-- What is written first always names a store, and is one part of a text. -/
theorem colon_mem_head {slot text : String} {drive : Drive} (h : ofText slot text = .ok drive) :
    ':' ∈ drive.disk.head.toList ∧ ',' ∉ drive.disk.head.toList := by
  have hfree := comma_not_mem_volume h
  by_cases hc : ':' ∈ drive.volume.toList
  · rw [head_of_store h hc]
    exact ⟨hc, hfree⟩
  · have hdecimal := (isValue_decimal drive.disk.sizeGib.toNat).1
    simp [head_of_bare h hc, String.toList_append, hfree, hdecimal]

end Drive

/-! ## Options that are written -/

/-- The options of a drive that says nothing of them. -/
def DiskOptions.plain : DiskOptions := ⟨none, none, false, false, true, .none⟩

/-- What is written of options: only data disks have any. -/
def DiskOptions.writtenIn (o : DiskOptions) (slot : String) : DiskOptions :=
  if DiskClass.ofSlot slot = .data then o else plain

theorem DiskOptions.writtenIn_eq_self_iff {o : DiskOptions} {slot : String} :
    o.writtenIn slot = o ↔ DiskClass.ofSlot slot = .data ∨ o = plain := by
  rw [writtenIn]
  split_ifs with h <;> simp [h, eq_comm]

namespace Drive

open Disk (optionPairs optionKeys)

/-- What a drive says that is written again with other options. -/
def retuned (slot : String) (drive : Drive) (o : DiskOptions) : PropertyString :=
  ⟨some drive.disk.head, optional "format" drive.disk.format ++ optionPairs (o.writtenIn slot)⟩

variable {slot text : String} {drive : Drive} {o : DiskOptions}

/-- A drive that was read is not imported, so its options are all that its text changes in. -/
theorem toText_retuned (h : ofText slot text = .ok drive) (o : DiskOptions) :
    ({ drive.disk with options := o } : Disk).toText = (drive.retuned slot o).toText := by
  obtain ⟨volume, size, -, -, rfl⟩ := ofText_eq_ok_iff.1 h
  have hoptions : (if DiskClass.ofSlot slot = .data then optionPairs o else []) =
      optionPairs (o.writtenIn slot) := by
    rw [DiskOptions.writtenIn]
    split <;> rfl
  rw [Disk.toText, Disk.toProperties, retuned]
  dsimp only [Disk.importPair]
  rw [hoptions]
  cases (place volume).2 <;> rfl

theorem arePairs_retuned (h : ofText slot text = .ok drive) (hc : ∀ s ∈ o.cache, IsValue s)
    (hd : ∀ s ∈ o.discard, IsValue s) : ArePairs (drive.retuned slot o).pairs := by
  refine arePairs_append.2 ⟨arePairs_optional (by decide) (format_isValue h), ?_⟩
  rw [DiskOptions.writtenIn]
  split
  · exact Disk.arePairs_optionPairs hc hd
  · exact Disk.arePairs_optionPairs (by simp [DiskOptions.plain]) (by simp [DiskOptions.plain])

theorem get?_retuned {key : String} : (drive.retuned slot o).get? key =
    (if "format" = key then drive.disk.format else none).or (lookup? (optionPairs (o.writtenIn slot)) key) := by
  rw [get?_eq, retuned, lookup?_append, lookup?_optional]

theorem get?_retuned_eq_none : ∀ key ∈ ["file", "media", "size"], (drive.retuned slot o).get? key = none := by
  intro key hk
  have hformat : "format" ≠ key := by
    rintro rfl
    exact absurd hk (by decide)
  rw [get?_retuned, if_neg hformat, Disk.lookup?_optionPairs_eq_none _ key hk]
  rfl

/-- A volume that can stand first in the text of a drive, and that names the store that it is in. -/
def NamesVolume (volume : String) : Prop := ':' ∈ volume.toList ∧ IsHead volume

/-- Such a volume is read again, with its format and with the options that were written. -/
theorem ofText_retuned (h : ofText slot text = .ok drive) (hv : NamesVolume drive.volume)
    (hp : ArePairs (drive.retuned slot o).pairs) :
    ∃ again, ofText slot (drive.retuned slot o).toText = .ok again ∧ again.volume = drive.volume ∧
      again.disk.format = drive.disk.format ∧ again.disk.options = o.writtenIn slot := by
  have hhead : (drive.retuned slot o).head = some drive.volume := congrArg some (head_of_store h hv.1)
  have hwell : (drive.retuned slot o).WellFormed := by
    refine ⟨fun s hs => ?_, hp⟩
    rw [hhead] at hs
    exact Option.some.inj hs ▸ hv.2
  have hread := PropertyString.ofText_toText hwell
  have hfile : (drive.retuned slot o).get? "file" = none := get?_retuned_eq_none "file" (by decide)
  have hsize : sizeGib (drive.retuned slot o) = .ok 0 := by
    rw [sizeGib, get?_retuned_eq_none "size" (by decide)]
  have hformat : lookup? (optionPairs (o.writtenIn slot)) "format" = none := by
    simp [optionPairs, lookup?_append, Disk.lookup?_backup]
  refine ⟨_, ofText_eq_ok_iff.2 ⟨drive.volume, 0, ?_, ?_, rfl⟩, rfl, ?_, ?_⟩
  · rw [hread, hfile, hhead]
    rfl
  · rw [hread, hsize]
  · dsimp only
    rw [hread, get?_retuned, if_pos rfl, hformat, Option.or_none]
  · dsimp only
    rw [hread]
    have hother : ∀ key ∈ optionKeys, "format" ≠ key := by decide
    refine Disk.options_of_get? fun key hk => ?_
    rw [get?_retuned, if_neg (hother key hk), Option.none_or]

/-- The volume is read again only if it is such a volume. -/
theorem namesVolume_of_retuned (h : ofText slot text = .ok drive) (hp : ArePairs (drive.retuned slot o).pairs)
    {again : Drive} (ha : ofText slot (drive.retuned slot o).toText = .ok again)
    (hv : again.volume = drive.volume) : NamesVolume drive.volume := by
  obtain ⟨hcolon, hcomma⟩ := colon_mem_head h
  have htrim : ':' ∈ Text.trim drive.disk.head.toList := Text.mem_trim hcolon (by decide)
  obtain ⟨volume, size, hvolume, -, rfl⟩ := ofText_eq_ok_iff.1 ha
  obtain rfl : volume = drive.volume := hv
  have hread := volume_of_first hcomma (List.ne_nil_of_mem htrim) hp (get?_retuned_eq_none "file" (by decide))
  rw [show PropertyString.toText ⟨some drive.disk.head, (drive.retuned slot o).pairs⟩ =
    (drive.retuned slot o).toText from rfl, hvolume] at hread
  cases hcut : Text.cutAt '=' (Text.trim drive.disk.head.toList) with
  | none =>
    -- what stands first is the head, and with it the volume
    rw [hcut] at hread
    have hlist : drive.volume.toList = Text.trim drive.disk.head.toList := by
      rw [Option.some.inj hread, Text.trimmed, String.toList_ofList]
    rw [← hlist] at htrim hcut
    rw [head_of_store h htrim] at hlist
    refine ⟨htrim, fun he => ?_, comma_not_mem_volume h, Text.cutAt_eq_none_iff.1 hcut, hlist.symm⟩
    simp [he] at htrim
  | some pair =>
    -- what stands first is a pair, and the volume only a part of it
    obtain ⟨key, value⟩ := pair
    obtain ⟨hsplit, -⟩ := Text.cutAt_eq_some hcut
    rw [hcut] at hread
    obtain ⟨rfl, hvalue⟩ := Option.ite_none_right_eq_some.1 hread.symm
    obtain rfl : value = drive.volume.toList := by
      rw [← Option.some.inj hvalue, String.toList_ofList]
    have hc : ':' ∈ drive.volume.toList := by
      rw [hsplit] at htrim
      simpa using htrim
    have hlength := (Text.trim_sublist drive.disk.head.toList).length_le
    rw [hsplit, head_of_store h hc] at hlength
    simp at hlength
    omega

end Drive

namespace Plan

open Drive (NamesVolume)

/-- A disk that is declared with other options is written again, and the volume is read again with its format
and with these options if it names its store, can stand first in a text, and holds data. Every volume can
that was read from there. A volume that names no store is taken for the name of one, in which a new volume
is asked for. -/
theorem retuned_volume_kept_iff (id : UInt32) (desired observed : Dict Disk) {slot text : String}
    {drive : Drive} {want : Disk} (hread : Drive.ofText slot text = .ok drive)
    (hd : desired.get? slot = some want) (ho : observed.get? slot = some drive.disk)
    (ht : want.Retunes drive.disk) (hcache : ∀ s ∈ want.options.cache, IsValue s)
    (hdiscard : ∀ s ∈ want.options.discard, IsValue s) :
    let written := drive.retuned slot want.options
    ((planDisks id desired observed).inSlot slot).updates =
        [.update (diskField slot) slot written.toText .drift] ∧
      ((∃ again, Drive.ofText slot written.toText = .ok again ∧ again.volume = drive.volume ∧
          again.disk.format = drive.disk.format ∧ again.disk.options = want.options) ↔
        NamesVolume drive.volume ∧ (DiskClass.ofSlot slot = .data ∨ want.options = .plain)) ∧
      (':' ∉ drive.volume.toList →
        written.head = some (drive.volume ++ ":" ++ Text.decimal drive.disk.sizeGib.toNat)) ∧
      ((PropertyString.ofText text).get? "file" = none → IsHead drive.volume) := by
  intro written
  have hpairs : ArePairs written.pairs := Drive.arePairs_retuned hread hcache hdiscard
  refine ⟨?_, ?_, fun hc => congrArg some (Drive.head_of_bare hread hc), fun hfile => ?_⟩
  · have hupdates : ((planDisks id desired observed).inSlot slot).updates = _ := stepKind_updates.inSlot
    rw [hupdates, hd, ho, Option.elim_some, updates_changeDisk_some, if_pos ht, retuneStep,
      Drive.toText_retuned hread]
  · constructor
    · rintro ⟨again, ha, hvolume, -, hoptions⟩
      have hnames := Drive.namesVolume_of_retuned hread hpairs ha hvolume
      obtain ⟨_, hagain, -, -, hwritten⟩ := Drive.ofText_retuned hread hnames hpairs
      cases ha.symm.trans hagain
      exact ⟨hnames, DiskOptions.writtenIn_eq_self_iff.1 (hwritten.symm.trans hoptions)⟩
    · rintro ⟨hnames, hslot⟩
      obtain ⟨again, ha, hvolume, hformat, hwritten⟩ := Drive.ofText_retuned hread hnames hpairs
      exact ⟨again, ha, hvolume, hformat, hwritten.trans (DiskOptions.writtenIn_eq_self_iff.2 hslot)⟩
  · rcases Drive.isHead_or_isValue_volume hread with hhead | ⟨hnone, -⟩
    · exact hhead
    · cases hfile.symm.trans hnone

/-- A drive of the host itself, whose volume names no store. -/
def hostDrive : Drive where
  volume := "/dev/sdb"
  media := none
  disk := .plain "scsi0" .data "/dev/sdb" 8 none true

/-- The same drive with a thread of its own. -/
def threadedDisk : Disk := { hostDrive.disk with options := { hostDrive.disk.options with iothread := true } }

theorem retuned_volume_kept_hostDrive : Drive.ofText "scsi0" "/dev/sdb,size=8G" = .ok hostDrive ∧
    threadedDisk.Retunes hostDrive.disk ∧
    ¬∃ again, Drive.ofText "scsi0" (hostDrive.retuned "scsi0" threadedDisk.options).toText = .ok again ∧
      again.volume = hostDrive.volume ∧ again.disk.format = hostDrive.disk.format ∧
      again.disk.options = threadedDisk.options := by
  have hread : Drive.ofText "scsi0" "/dev/sdb,size=8G" = .ok hostDrive := by decide +kernel
  have ht : threadedDisk.Retunes hostDrive.disk := by decide
  have hkept := retuned_volume_kept_iff 100 (.ofList [("scsi0", threadedDisk)])
    (.ofList [("scsi0", hostDrive.disk)]) hread rfl rfl ht (by decide) (by decide)
  refine ⟨hread, ht, fun h => ?_⟩
  exact absurd (hkept.2.1.1 h).1.1 (by decide)

end Plan

end Steward
