/-
Drives that were asked for and allocated. A declared disk, written, allocated and read again, has the
store, the size and the options that were declared; the generated drive of an instance is known by its
volume and by its medium.
-/
import Mathlib
import Steward.Lab
import Steward.Proofs.Notation
import Steward.Proofs.Sizes

namespace Steward

open PropertyString

/-! ## Volumes -/

/-- A store's name, which a volume can carry; it may be empty. -/
def IsStore (s : String) : Prop :=
  ∀ c ∈ s.toList, c ≠ ',' ∧ c ≠ ':' ∧ c ≠ '=' ∧ Text.isBlank c = false

instance (s : String) : Decidable (IsStore s) :=
  List.decidableBAll (fun c => c ≠ ',' ∧ c ≠ ':' ∧ c ≠ '=' ∧ Text.isBlank c = false) s.toList

theorem isStore_of_isWord {s : String} (h : IsWord s ∧ ':' ∉ s.toList) : IsStore s := by
  intro c hc
  obtain ⟨hcomma, -, hequals, hblank⟩ := h.1.2 c hc
  exact ⟨hcomma, fun he => h.2 (he ▸ hc), hequals, hblank⟩

theorem IsStore.colon_not_mem {s : String} (h : IsStore s) : ':' ∉ s.toList := fun hc => (h _ hc).2.1 rfl

theorem IsStore.isHead_volume {store path : String} (hs : IsStore store) (hp : IsWord path) :
    IsHead (store ++ ":" ++ path) := by
  have hchar : ∀ c ∈ (store ++ ":" ++ path).toList, c ≠ ',' ∧ c ≠ '=' ∧ Text.isBlank c = false := by
    intro c hc
    rw [String.toList_append, String.toList_append, List.mem_append, List.mem_append] at hc
    rcases hc with (hc | hc) | hc
    · exact ⟨(hs c hc).1, (hs c hc).2.2⟩
    · rw [List.mem_singleton.1 hc]
      decide
    · exact ⟨(hp.2 c hc).1, (hp.2 c hc).2.2⟩
  refine ⟨fun he => hp.1 (String.toList_inj.1 ?_), fun hc => (hchar _ hc).1 rfl,
    fun hc => (hchar _ hc).2.1 rfl, Text.trim_eq_self (Text.startsBlank_eq_false fun c hc => (hchar c hc).2.2)
      (Text.endsBlank_eq_false fun c hc => (hchar c hc).2.2)⟩
  have hnil := congrArg String.toList he
  rw [String.toList_append] at hnil
  simpa using (List.append_eq_nil_iff.1 hnil).2

theorem cut_volume {store : String} (h : ':' ∉ store.toList) (path : String) :
    Text.cut ':' (store ++ ":" ++ path) = some (store, path) := by
  have htext : (store ++ ":" ++ path).toList = store.toList ++ ':' :: path.toList := by
    simp [String.toList_append]
  rw [Text.cut, htext, Text.cutAt_append h]
  simp [String.ofList_toList]

/-- A path that a volume may have in a store. -/
def volumePath (id : UInt32) (n : Nat) : String :=
  "vm-" ++ Text.decimal id.toNat ++ "-disk-" ++ Text.decimal n

theorem isWord_volumePath (id : UInt32) (n : Nat) : IsWord (volumePath id n) :=
  ((IsWord.append (by decide) (isWord_decimal _)).append (by decide)).append (isWord_decimal _)

theorem pathOwnedBy_volumePath (id : UInt32) (n : Nat) : Disk.pathOwnedBy (volumePath id n) id = true := by
  have hsplit : (volumePath id n).toList = ("vm-" ++ Text.decimal id.toNat ++ "-").toList ++
      ("disk-" ++ Text.decimal n).toList := by
    simp [volumePath, String.toList_append]
  rw [Disk.pathOwnedBy, Text.startsWith, hsplit]
  simp

/-! ## Declared disks -/

namespace Disk

/-- A declared disk that can be asked for: its texts can be written, and its store has a name of its own. -/
structure Creatable (d : Disk) : Prop where
  datastore : IsWord d.datastore ∧ ':' ∉ d.datastore.toList
  size : d.sizeGib.toNat < maxSizeGib
  format : ∀ s ∈ d.format, IsValue s
  source : ∀ s ∈ d.source, IsValue s
  cache : ∀ s ∈ d.options.cache, IsValue s
  discard : ∀ s ∈ d.options.discard, IsValue s

instance (d : Disk) : Decidable d.Creatable :=
  decidable_of_iff
    ((IsWord d.datastore ∧ ':' ∉ d.datastore.toList) ∧ d.sizeGib.toNat < maxSizeGib ∧
      (∀ s ∈ d.format, IsValue s) ∧
      (∀ s ∈ d.source, IsValue s) ∧ (∀ s ∈ d.options.cache, IsValue s) ∧ ∀ s ∈ d.options.discard, IsValue s)
    ⟨fun ⟨h1, h2, h3, h4, h5, h6⟩ => ⟨h1, h2, h3, h4, h5, h6⟩,
      fun ⟨h1, h2, h3, h4, h5, h6⟩ => ⟨h1, h2, h3, h4, h5, h6⟩⟩

/-- The size that is asked for: what is imported grows only later. -/
def createdSize (d : Disk) : UInt64 := if d.source.isSome then 0 else d.sizeGib

/-- What a drive says that holds the new disk in the volume `path`. -/
def placed (d : Disk) (path : String) : PropertyString :=
  ⟨some (d.datastore ++ ":" ++ path), d.toProperties.pairs ++
    [("size", Text.decimal d.createdSize.toNat ++ "G")]⟩

variable {d : Disk}

theorem arePairs_optionPairs {o : DiskOptions} (hc : ∀ s ∈ o.cache, IsValue s)
    (hd : ∀ s ∈ o.discard, IsValue s) :
    ArePairs (optionPairs o) := by
  have hnumber : ∀ n, ∀ v ∈ number n, IsValue v := fun n => by cases n <;> simp [number]
  have hbackup : ArePairs (if o.backup then [] else [("backup", "0")]) := by
    split
    · simp
    · simpa using by decide
  simp only [optionPairs, arePairs_append]
  exact ⟨⟨⟨⟨⟨⟨⟨⟨⟨⟨arePairs_optional (by decide) hc, arePairs_optional (by decide) hd⟩,
    arePairs_flag (by decide)⟩,
    arePairs_flag (by decide)⟩, hbackup⟩, arePairs_optional (by decide) (hnumber _)⟩,
    arePairs_optional (by decide) (hnumber _)⟩, arePairs_optional (by decide) (hnumber _)⟩,
    arePairs_optional (by decide) (hnumber _)⟩, arePairs_optional (by decide) (hnumber _)⟩,
    arePairs_optional (by decide) (hnumber _)⟩

theorem Creatable.arePairs (h : d.Creatable) (hp : d.path = none) : ArePairs d.toProperties.pairs := by
  simp only [toProperties, importPair, hp, arePairs_append]
  refine ⟨⟨arePairs_optional (by decide) h.source, arePairs_optional (by decide) h.format⟩, ?_⟩
  split
  · exact arePairs_optionPairs h.cache h.discard
  · simp

theorem head_eq (hp : d.path = none) : d.head = d.datastore ++ ":" ++ Text.decimal d.createdSize.toNat := by
  rw [head, createdSize, hp]
  cases d.source with
  | none => simp [volume, hp]
  | some source =>
    rw [Option.isSome_some, if_pos rfl, String.append_assoc]
    rfl

theorem Creatable.createdSize_lt (h : d.Creatable) : d.createdSize.toNat < maxSizeGib := by
  rw [createdSize]
  split
  · decide
  · exact h.size

theorem Creatable.wellFormed (h : d.Creatable) (hp : d.path = none) : d.toProperties.WellFormed := by
  refine ⟨fun s hs => ?_, h.arePairs hp⟩
  obtain rfl : d.head = s := Option.some.inj hs
  rw [head_eq hp]
  exact (isStore_of_isWord h.datastore).isHead_volume (isWord_decimal _)

theorem wellFormed_placed (h : d.Creatable) (hp : d.path = none) {path : String} (hw : IsWord path) :
    (d.placed path).WellFormed := by
  refine ⟨fun s hs => ?_, ?_⟩
  · obtain rfl : d.datastore ++ ":" ++ path = s := Option.some.inj hs
    exact (isStore_of_isWord h.datastore).isHead_volume hw
  · refine arePairs_append.2 ⟨h.arePairs hp, ?_⟩
    simpa using ⟨by decide, ((isWord_decimal _).append (by decide)).isValue⟩

/-- The request for a disk is answered with a volume of the instance. -/
theorem allocated_toText (h : d.Creatable) (hp : d.path = none) (id : UInt32) (config : Dict Json) :
    Lab.allocated id config d.toText = (d.placed (volumePath id (Lab.volumeCount config))).toText := by
  have hdigits : Text.digits? (Text.decimal d.createdSize.toNat).toList = some d.createdSize.toNat :=
    Text.digits?_decimal _
  have hsize : Text.decimal d.createdSize.toNat ≠ "cloudinit" := by
    intro he
    rw [he] at hdigits
    exact absurd hdigits (by rw [show Text.digits? "cloudinit".toList = none by decide]; simp)
  have hhead : d.toProperties.head = some (d.datastore ++ ":" ++ Text.decimal d.createdSize.toNat) := by
    rw [← head_eq hp]
    rfl
  have hvolume (n : Nat) : d.datastore ++ ":vm-" ++ Text.decimal id.toNat ++ "-disk-" ++ Text.decimal n =
      d.datastore ++ ":" ++ volumePath id n :=
        String.toList_inj.1 (by simp [volumePath, String.toList_append])
  rw [Lab.allocated, toText, PropertyString.ofText_toText (h.wellFormed hp), hhead]
  simp only [Option.bind_some, cut_volume h.datastore.2, hsize, if_false, hdigits, Option.isSome_some,
    if_true, hvolume]
  rfl

theorem limit?_number {p : PropertyString} {key : String} {n : Option UInt32} (h : p.get? key = number n) :
    Drive.limit? p key = n := by
  rw [Drive.limit?, h]
  cases n with
  | none => rfl
  | some n =>
    have hn : n.toNat < 2 ^ 32 := n.toNat_lt
    obtain ⟨m, q, hread, hvalue⟩ := Binary64.ofText?_decimal (n := n.toNat) (by omega)
    have hvalue : Binary64.truncate (2 ^ 32 - 1) (.finite false m q) = n.toNat :=
      Binary64.truncate_natural (by omega) hvalue
    rw [number, Option.map_some, Option.bind_some, hread, Option.map_some, hvalue, UInt32.ofNat_toNat]

theorem lookup?_backup (o : DiskOptions) (key : String) :
    lookup? (if o.backup then [] else [("backup", "0")]) key =
    if key = "backup" ∧ o.backup = false then some "0" else none := by
  cases o.backup <;> by_cases hk : key = "backup" <;> simp [lookup?_cons, hk, eq_comm]

/-- Keys of which no option makes use. -/
theorem lookup?_optionPairs_eq_none (o : DiskOptions) : ∀ key ∈ ["file", "media", "size"],
    lookup? (optionPairs o) key = none := by
  intro key hk
  have hkey : key = "file" ∨ key = "media" ∨ key = "size" := by simpa using hk
  rcases hkey with rfl | rfl | rfl <;> simp [optionPairs, lookup?_append, lookup?_backup]

theorem get?_placed (hp : d.path = none) (path : String) {key : String}
    (hk : key ≠ "import-from" ∧ key ≠ "format") :
    (d.placed path).get? key = (if d.diskClass = .data then lookup? (optionPairs d.options) key else none).or
      (if key = "size" then some (Text.decimal d.createdSize.toNat ++ "G") else none) := by
  rw [get?_eq, placed, lookup?_append]
  simp only [toProperties, importPair, hp, lookup?_append, lookup?_optional, hk.1.symm, hk.2.symm,
    if_false, Option.none_or, lookup?_cons, lookup?_nil, eq_comm (a := "size")]
  split <;> rfl

/-- The keys of options. -/
def optionKeys : List String :=
  ["cache", "discard", "ssd", "iothread", "backup", "mbps_rd", "mbps_wr", "mbps_rd_max", "mbps_wr_max",
    "iops_rd", "iops_wr"]

/-- Options are read from their own pairs. -/
theorem options_of_get? {p : PropertyString} {o : DiskOptions}
    (h : ∀ key ∈ optionKeys, p.get? key = lookup? (optionPairs o) key) : Drive.options p = o := by
  have hlimit {key : String} {n : Option UInt32} (hk : key ∈ optionKeys)
      (hn : lookup? (optionPairs o) key = number n) : Drive.limit? p key = n :=
    limit?_number ((h key hk).trans hn)
  have hspeed : Drive.speedLimits p = o.speed := by
    rw [Drive.speedLimits, hlimit (n := o.speed.read) (by decide), hlimit (n := o.speed.write) (by decide),
      hlimit (n := o.speed.readBurst) (by decide), hlimit (n := o.speed.writeBurst) (by decide),
      hlimit (n := o.speed.readOps) (by decide), hlimit (n := o.speed.writeOps) (by decide)]
    all_goals simp [optionPairs, lookup?_append, lookup?_backup]
  rw [Drive.options, hspeed, h "cache" (by decide), h "discard" (by decide), h "ssd" (by decide),
    h "iothread" (by decide), h "backup" (by decide)]
  obtain ⟨cache, discard, ssd, iothread, backup, speed⟩ := o
  have hzero : isTrueWord "0" = false := by decide
  cases ssd <;> cases iothread <;> cases backup <;> simp [optionPairs, lookup?_append, lookup?_cons, hzero]

theorem options_placed (hp : d.path = none) (path : String) (hc : d.diskClass = .data) :
    Drive.options (d.placed path) = d.options := by
  have hother : ∀ key ∈ optionKeys, (key ≠ "import-from" ∧ key ≠ "format") ∧ key ≠ "size" := by decide
  refine options_of_get? fun key hk => ?_
  rw [get?_placed hp path (hother key hk).1, if_pos hc, if_neg (hother key hk).2, Option.or_none]

/-- A drive of the instance `id` with the new disk: only a data disk has options. -/
structure HeldBy (d : Disk) (id : UInt32) (drive : Drive) : Prop where
  fixed : drive.isCdrom = false
  owned : drive.disk.isOwnedBy id = true
  datastore : drive.disk.datastore = d.datastore
  size : drive.disk.sizeGib = d.createdSize
  options : d.diskClass = .data → drive.disk.options = d.options

/-- A disk that was allocated is read back with the store, the size and the options that were declared. -/
theorem ofText_placed (h : d.Creatable) (hp : d.path = none) {path : String} (hw : IsWord path) {id : UInt32}
    (ho : pathOwnedBy path id = true) (slot : String) :
    ∃ drive, Drive.ofText slot (d.placed path).toText = .ok drive ∧ d.HeldBy id drive := by
  have hnone (key : String) (hk : key ≠ "import-from" ∧ key ≠ "format") (hs : key ≠ "size")
      (ho : key ∈ ["file", "media", "size"]) :
      (d.placed path).get? key = none := by
    rw [get?_placed hp path hk, lookup?_optionPairs_eq_none _ key ho, if_neg hs]
    split <;> rfl
  have hsizeText : (d.placed path).get? "size" = some (Text.decimal d.createdSize.toNat ++ "G") := by
    rw [get?_placed hp path (by decide), lookup?_optionPairs_eq_none _ "size" (by decide), if_pos rfl]
    split <;> rfl
  have hsize : Drive.sizeGib (d.placed path) = .ok d.createdSize := by
    rw [(SizeUnit.writes_gib _).sizeGib_eq h.createdSize_lt.le hsizeText, UInt64.ofNat_toNat]
  have hread : PropertyString.ofText (d.placed path).toText = d.placed path :=
    PropertyString.ofText_toText (wellFormed_placed h hp hw)
  have hhead : (d.placed path).head = some (d.datastore ++ ":" ++ path) := rfl
  simp only [Drive.ofText, hread, hnone "file" (by decide) (by decide) (by decide), hhead, hsize, Except.map]
  refine ⟨_, rfl, ?_, ?_, ?_, rfl, fun hc => options_placed hp path hc⟩
  · simp [Drive.isCdrom, hnone "media" (by decide) (by decide) (by decide)]
  · simp [isOwnedBy, Drive.place, cut_volume h.datastore.2, ho]
  · simp [Drive.place, cut_volume h.datastore.2]

theorem ofText_allocated (h : d.Creatable) (hp : d.path = none) (id : UInt32) (config : Dict Json)
    (slot : String) :
    ∃ drive, Drive.ofText slot (Lab.allocated id config d.toText) = .ok drive ∧ d.HeldBy id drive := by
  rw [allocated_toText h hp]
  exact ofText_placed h hp (isWord_volumePath id _) (pathOwnedBy_volumePath id _) slot

end Disk

/-! ## The generated drive -/

namespace CloudInit

theorem occursIn_append (s part : List Char) : Text.occursIn part (s ++ part) = true := by
  induction s with
  | nil =>
    cases part with
    | nil => rfl
    | cons c r => simp [Text.occursIn]
  | cons c s ih => rw [List.cons_append, Text.occursIn, ih, Bool.or_true]

theorem driveText_eq (store : String) :
    driveText store = PropertyString.toText ⟨some (store ++ ":" ++ "cloudinit"), [("media", "cdrom")]⟩ :=
  String.toList_inj.1 (by simp [driveText, PropertyString.toText, Text.join, String.toList_append])

theorem wellFormed_drive {volume : String} (h : IsHead volume) :
    PropertyString.WellFormed ⟨some volume, [("media", "cdrom")]⟩ := by
  refine ⟨fun s hs => ?_, by simpa [IsPair] using ⟨by decide, by decide⟩⟩
  obtain rfl : volume = s := Option.some.inj hs
  exact h

/-- The volume that is allocated for the drive. -/
def volumePath (id : UInt32) : String := "vm-" ++ Text.decimal id.toNat ++ "-cloudinit"

theorem isWord_volumePath (id : UInt32) : IsWord (volumePath id) :=
  (IsWord.append (by decide) (isWord_decimal _)).append (by decide)

theorem allocated_driveText {store : String} (h : IsStore store) (id : UInt32) (config : Dict Json) :
    Lab.allocated id config (driveText store) =
      PropertyString.toText ⟨some (store ++ ":" ++ volumePath id), [("media", "cdrom")]⟩ := by
  have hvolume : store ++ ":vm-" ++ Text.decimal id.toNat ++ "-cloudinit" = store ++ ":" ++ volumePath id :=
    String.toList_inj.1 (by simp [volumePath, String.toList_append])
  rw [Lab.allocated, driveText_eq, PropertyString.ofText_toText
    (wellFormed_drive (h.isHead_volume (by decide)))]
  simp only [Option.bind_some, cut_volume h.colon_not_mem, if_true, hvolume]

/-- The drive that was asked for is known as the generated one of the instance, and is in the store that
was declared. -/
theorem ofText_allocated_driveText {store : String} (h : IsStore store) (id : UInt32) (config : Dict Json)
    (slot : String) :
    ∃ drive, Drive.ofText slot (Lab.allocated id config (driveText store)) = .ok drive ∧
      drive.isCdrom = true ∧ isVolumeOf id drive.volume = true ∧ drive.disk.datastore = store := by
  have hread := PropertyString.ofText_toText (wellFormed_drive (h.isHead_volume (isWord_volumePath id)))
  simp only [allocated_driveText h, Drive.ofText, hread]
  refine ⟨_, rfl, rfl, ?_, ?_⟩
  · have hcontains : Text.occursIn (volumePath id).toList (store ++ ":" ++ volumePath id).toList = true := by
      rw [String.toList_append]
      exact occursIn_append _ _
    exact hcontains
  · simp [Drive.place, cut_volume h.colon_not_mem]

end CloudInit

end Steward
