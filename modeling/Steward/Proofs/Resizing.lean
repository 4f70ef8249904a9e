/-
Disks that have grown. A size is asked for in GiB, a drive that reports the size that was asked for is read with
exactly that size, and then nothing is left to do for it: it neither grows again nor looks larger than it was
declared (`written_sizes_read_back`).
-/
import Mathlib
import Steward.Proofs.RetunedDrive
import Steward.Proofs.StoppedWindow
import Steward.Rest.Form

namespace Steward

open PropertyString

/-! ## Reported sizes -/

namespace Drive

/-- A drive's text that says `n` GiB for its size. -/
def SaysGib (text : String) (n : Nat) : Prop :=
  ∃ size, (PropertyString.ofText text).get? "size" = some size ∧ SizeUnit.Writes n .gib size

variable {slot text : String} {n : Nat}

theorem SaysGib.sizeGib_eq (h : SaysGib text n) (hn : n ≤ maxSizeGib) :
    sizeGib (PropertyString.ofText text) = .ok (UInt64.ofNat n) := by
  obtain ⟨size, hsize, hwrites⟩ := h
  exact hwrites.sizeGib_eq hn hsize

theorem SaysGib.exists_ofText (h : SaysGib text n) (hn : n ≤ maxSizeGib) (slot : String)
    (hv : ((PropertyString.ofText text).get? "file" <|> (PropertyString.ofText text).head).isSome = true) :
    ∃ drive, ofText slot text = .ok drive := by
  obtain ⟨volume, hvolume⟩ := Option.isSome_iff_exists.1 hv
  exact ⟨_, ofText_eq_ok_iff.2 ⟨volume, _, hvolume, h.sizeGib_eq hn, rfl⟩⟩

theorem SaysGib.toNat_sizeGib (h : SaysGib text n) (hn : n ≤ maxSizeGib) {drive : Drive}
    (hd : ofText slot text = .ok drive) : drive.disk.sizeGib.toNat = n := by
  obtain ⟨volume, size, -, hsize, rfl⟩ := ofText_eq_ok_iff.1 hd
  rw [h.sizeGib_eq hn] at hsize
  cases hsize
  exact UInt64.toNat_ofNat_of_lt' (Nat.lt_of_le_of_lt hn (by decide))

end Drive

/-- A size is asked for in GiB. -/
theorem ResizeDiskRequest.exists_size (r : ResizeDiskRequest) :
    ∃ size, ("size", size) ∈ r.form ∧ SizeUnit.Writes r.sizeGib.toNat .gib size :=
  ⟨_, by simp [form], SizeUnit.writes_gib _⟩

/-- The value of a pair in memory, from what it was before its drive was asked to grow. -/
def Lab.resizedValue (n : UInt64) (key value : String) : String :=
  if key = "size" then Text.decimal n.toNat ++ "G" else value

theorem Lab.resized_eq (n : UInt64) (text : String) : resized n text =
    toText ⟨(ofText text).head, (ofText text).pairs.map fun e => (e.1, resizedValue n e.1 e.2)⟩ := rfl

/-- In memory, a drive with a size says the one that it was asked to grow to. -/
theorem Lab.saysGib_resized {text : String} (h : ((ofText text).get? "size").isSome = true) (n : UInt64) :
    Drive.SaysGib (resized n text) n.toNat := by
  obtain ⟨old, hold⟩ := Option.isSome_iff_exists.1 h
  have hread := wellFormed_ofText text
  have hwell : WellFormed ⟨(ofText text).head, (ofText text).pairs.map fun e =>
      (e.1, resizedValue n e.1 e.2)⟩ := by
    refine ⟨hread.head, fun pair hpair => ?_⟩
    obtain ⟨e, hmem, rfl⟩ := List.mem_map.1 hpair
    obtain ⟨hkey, hvalue⟩ := hread.pairs e hmem
    refine ⟨hkey, ?_⟩
    dsimp only [resizedValue]
    split
    · exact ((isWord_decimal n.toNat).append (by decide)).isValue
    · exact hvalue
  refine ⟨Text.decimal n.toNat ++ "G", ?_, SizeUnit.writes_gib _⟩
  rw [resized_eq, ofText_toText hwell, get?_eq, lookup?_map_keyed, ← get?_eq, hold]
  rfl

/-! ## Plans -/

namespace Plan

variable {desired : Desired} {observed : Observed} {copied : Bool}

/-- Only the comparison of disks makes them grow. -/
theorem mem_resizes_of_resizeDisk {i : Intent} (hi : i ∈ (planPass desired observed copied).plan.intents)
    {slot : String} {n : UInt64} (hop : i.op = .resizeDisk slot n) : i ∈ (passDisks desired observed).resizes := by
  have hchange := mem_changes_of_not_isLifecycle hi (by rw [hop]; rfl)
  rcases passChange_cases hchange with hplain | hgrows | ⟨j, rfl, hdrive | hmove⟩
  · rw [Intent.isPlain, hop] at hplain
    cases hplain
  · exact hgrows
  · have hconfig := (relocation_of_mem hdrive).2
    rw [show j.op = .resizeDisk slot n from hop] at hconfig
    cases hconfig
  · obtain ⟨other, store, rfl⟩ := mem_moves_planDisks hmove
    cases hop

/-- Where a disk has the declared size, it is let alone. -/
theorem size_settled {remote : Remote} {identity : Identity} {status : Status}
    (ho : remote.observe identity status = .ok observed) {slot text : String} {want : Disk}
    (hw : desired.config.disks.get? slot = some want) (ht : remote.text? slot = some text)
    (hs : Drive.SaysGib text want.sizeGib.toNat) (hn : want.sizeGib.toNat ≤ maxSizeGib) :
    (∀ i ∈ (planPass desired observed copied).plan.intents, ∀ n, i.op ≠ .resizeDisk slot n) ∧
      ∀ found ∈ observed.config.disks.get? slot, ∀ failure,
        ¬Disk.SizeRefused identity.id want found slot failure := by
  have hsame : ∀ found, observed.config.disks.get? slot = some found → found.sizeGib = want.sizeGib := by
    intro found hfound
    obtain ⟨-, text', drive, htext, hread, -, rfl⟩ := (Remote.get?_disks_of_observe ho).1 hfound
    obtain rfl : text = text' := Option.some.inj (ht.symm.trans htext)
    exact UInt64.toNat_inj.1 (hs.toNat_sizeGib hn hread)
  constructor
  · intro i hi n hop
    obtain ⟨other, want', found, hwant, hfound, hgrows, rfl⟩ :=
      mem_resizes_planDisks_iff.1 (mem_resizes_of_resizeDisk hi hop)
    cases hop
    obtain rfl : want = want' := Option.some.inj (hw.symm.trans hwant)
    exact absurd (hsame found hfound) (UInt64.ne_of_lt hgrows.1)
  · intro found hfound failure hrefused
    have hsize := hsame found hfound
    cases hrefused with
    | shrink h => exact absurd hsize.symm (UInt64.ne_of_lt h)
    | fixed h | foreign h => exact absurd hsize (UInt64.ne_of_lt h)

end Plan

/-- Sizes are read as they were written, whatever the unit, and in GiB as the least number that holds them. A
drive whose text says a size in GiB has exactly that size, which is how sizes are asked for and what drives say in
memory that were asked to grow. With the declared size a disk is not resized, nor is it refused for its size. -/
theorem written_sizes_read_back :
    (∀ (u : SizeUnit) (n : Nat) (text : String), SizeUnit.Writes n u text → n < 2 ^ 53 → n * u.bytes < 2 ^ 64 →
        ∃ bytes, diskBytes? text = some bytes ∧ bytes.toNat = n * u.bytes ∧
          IsLeast {g : Nat | n * u.bytes ≤ g * 2 ^ 30} (gibOfBytes bytes).toNat) ∧
      (∀ (slot text : String) (n : Nat), Drive.SaysGib text n → n ≤ 2 ^ 34 →
        ((ofText text).get? "file" <|> (ofText text).head).isSome = true →
          ∃ drive, Drive.ofText slot text = .ok drive ∧ drive.disk.sizeGib.toNat = n) ∧
      (∀ request : ResizeDiskRequest, ∃ size, ("size", size) ∈ request.form ∧
        SizeUnit.Writes request.sizeGib.toNat .gib size) ∧
      (∀ (text : String) (n : UInt64), ((ofText text).get? "size").isSome = true →
        Drive.SaysGib (Lab.resized n text) n.toNat) ∧
      ∀ (desired : Desired) (copied : Bool) (remote : Remote) (identity : Identity) (status : Status)
        (observed : Observed) (slot text : String) (want : Disk),
        remote.observe identity status = .ok observed → desired.config.disks.get? slot = some want →
        remote.text? slot = some text → Drive.SaysGib text want.sizeGib.toNat → want.sizeGib.toNat ≤ 2 ^ 34 →
          (∀ i ∈ (Plan.planPass desired observed copied).plan.intents, ∀ n, i.op ≠ .resizeDisk slot n) ∧
            ∀ found ∈ observed.config.disks.get? slot, ∀ failure,
              ¬Disk.SizeRefused identity.id want found slot failure := by
  refine ⟨fun u n text h hn hfits => ?_, fun slot text n h hn hv => ?_, ResizeDiskRequest.exists_size,
    fun text n h => Lab.saysGib_resized h n,
    fun desired copied remote identity status observed slot text want ho hw ht hs hn =>
      Plan.size_settled ho hw ht hs hn⟩
  · have hbytes : (UInt64.ofNat (min (2 ^ 64 - 1) (n * u.bytes))).toNat = n * u.bytes := by
      rw [UInt64.toNat_ofNat']
      omega
    refine ⟨_, h.diskBytes?_eq hn, hbytes, ?_⟩
    have hleast := isLeast_gibOfBytes (UInt64.ofNat (min (2 ^ 64 - 1) (n * u.bytes)))
    rwa [hbytes] at hleast
  · obtain ⟨drive, hread⟩ := h.exists_ofText hn slot hv
    exact ⟨drive, hread, h.toNat_sizeGib hn hread⟩

/-- A machine whose disk is to have 64 GiB. -/
def grownServer : Document where
  node := "pve1"
  id := some 100
  system := some { osType := some "l26" }
  disks := [{ interface := "scsi0", sizeGib := some 64 }]

/-- Its disk had 32 GiB before it was asked to grow. -/
def grownServerFound : Remote :=
  Lab.editText (.ofList [("scsi0", .string "local-lvm:vm-100-disk-0,size=32G")]) "scsi0" (Lab.resized 64)

theorem written_sizes_grownServer :
    (∃ bytes, diskBytes? "\t9007199254740991k " = some bytes ∧ bytes.toNat = 9007199254740991 * 1024) ∧
      (∃ drive, Drive.ofText "scsi0" "local-lvm:vm-100-disk-0,size=17179869183G" = .ok drive ∧
        drive.disk.sizeGib.toNat = 17179869183) ∧
      ∃ desired observed, grownServer.desired {} = .ok desired ∧
        grownServerFound.observe ⟨"pve1", 100, .vm⟩ ⟨.running, none⟩ = .ok observed ∧
        ∀ i ∈ (Plan.planPass desired observed false).plan.intents, ∀ n, i.op ≠ .resizeDisk "scsi0" n := by
  obtain ⟨hbytes, hdrive, -, hlab, hplan⟩ := written_sizes_read_back
  refine ⟨?_, ?_, ?_⟩
  · have htext : "\t9007199254740991k " = "\t" ++ (Text.decimal 9007199254740991 ++ String.singleton 'k') ++ " " := by
      decide +kernel
    have hwrites : SizeUnit.Writes 9007199254740991 .kib "\t9007199254740991k " := by
      rw [htext]
      exact .padded (.letter (by decide)) (by simpa using by decide) (by simpa using by decide)
    obtain ⟨bytes, hread, hvalue, -⟩ := hbytes .kib _ _ hwrites (by decide) (by decide)
    exact ⟨bytes, hread, hvalue⟩
  · exact hdrive "scsi0" _ 17179869183 ⟨_, by decide +kernel, SizeUnit.writes_gib _⟩ (by decide)
      (by decide +kernel)
  · obtain ⟨desired, hd⟩ : ∃ desired, grownServer.desired {} = .ok desired := ⟨_, rfl⟩
    obtain ⟨want, hw, hsize⟩ : ∃ want, desired.config.disks.get? "scsi0" = some want ∧ want.sizeGib = 64 := by
      cases hd
      exact ⟨_, rfl, rfl⟩
    have hseen : (grownServerFound.observe ⟨"pve1", 100, .vm⟩ ⟨.running, none⟩).toOption.isSome = true := by
      decide +kernel
    cases ho : grownServerFound.observe ⟨"pve1", 100, .vm⟩ ⟨.running, none⟩ with
    | error failure => rw [ho] at hseen; cases hseen
    | ok observed =>
      have hsays : Drive.SaysGib (Lab.resized 64 "local-lvm:vm-100-disk-0,size=32G") want.sizeGib.toNat := by
        rw [hsize]
        exact hlab _ 64 (by decide +kernel)
      refine ⟨desired, observed, hd, rfl, ?_⟩
      exact (hplan desired false _ _ _ observed "scsi0" _ want ho hw rfl hsays (by rw [hsize]; decide)).1

end Steward
