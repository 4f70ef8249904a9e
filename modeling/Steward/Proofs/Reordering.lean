/-
The order in which a document lists its disks and its tags does not matter: a document that lists the same
ones in another order, or a tag more than once, is accepted exactly if the first one is, and declares the same
instance (`desired_reordered`). Which fault a refused document is told may differ, as the first one counts.
-/
import Mathlib
import Steward.Proofs.Acceptance

namespace Steward

theorem Text.trimmed_padded {before after : List Char} (hb : ∀ c ∈ before, isBlank c = true)
    (ha : ∀ c ∈ after, isBlank c = true) (s : String) :
    trimmed (String.ofList (before ++ s.toList ++ after)) = trimmed s := by
  rw [trimmed, String.toList_ofList, trim_padded hb ha, trimmed]

namespace Document

/-! ## Tags -/

/-- The same tags in another order, more than once, or with blanks around them. -/
inductive Retagged : List String → List String → Prop
  | perm {tags others : List String} (h : tags.Perm others) : Retagged tags others
  | copy {tags : List String} {tag : String} (h : tag ∈ tags) : Retagged tags (tag :: tags)
  | pad {before after : List Char} (hb : ∀ c ∈ before, Text.isBlank c = true)
      (ha : ∀ c ∈ after, Text.isBlank c = true) (tag : String) (tags : List String) :
      Retagged (tag :: tags) (String.ofList (before ++ tag.toList ++ after) :: tags)
  | trans {tags others last : List String} (h : Retagged tags others) (h' : Retagged others last) :
      Retagged tags last

theorem mem_keys_tagsOf {tags : List String} {name : String} :
    name ∈ (tagsOf tags).keys ↔ (∃ tag ∈ tags, Text.trimmed tag = name) ∧ name.isEmpty = false := by
  rw [tagsOf, NameSet.mem_keys_ofList, List.mem_filter, List.mem_map, Bool.not_eq_true']

theorem Retagged.tagsOf_eq {tags others : List String} (h : Retagged tags others) :
    tagsOf tags = tagsOf others := by
  induction h with
  | perm h => exact NameSet.ext_keys fun name => by simp only [mem_keys_tagsOf, h.mem_iff]
  | @copy tags tag h =>
    refine NameSet.ext_keys fun name => ?_
    simp only [mem_keys_tagsOf, List.exists_mem_cons_iff]
    refine and_congr_left fun _ => ⟨.inr, ?_⟩
    rintro (rfl | hother)
    · exact ⟨tag, h, rfl⟩
    · exact hother
  | pad hb ha tag tags => rw [tagsOf, tagsOf, List.map_cons, List.map_cons, Text.trimmed_padded hb ha]
  | trans _ _ ih ih' => exact ih.trans ih'

/-! ## Disks -/

variable {policy : Policy} {doc : Document}

/-- Disks that are taken in one order are taken in every other, into the same slots. -/
theorem disksOf_of_perm {other : Document} {disks : Dict Disk} (hdisks : doc.disksOf policy = .ok disks)
    (h : doc.disks.Perm other.disks) (hk : other.kind = doc.kind) (hf : other.firmware = doc.firmware)
    (hs : other.keyStore = doc.keyStore) : other.disksOf policy = .ok disks := by
  have hnodup : ((doc.declaredDisks policy).map (·.interface)).Nodup :=
    interfaces_disksOf hdisks ▸ nodup_declaredSlots hdisks
  have hdeclared : (doc.declaredDisks policy).Perm (other.declaredDisks policy) := by
    rw [declaredDisks, declaredDisks, firmwareDisks, firmwareDisks, hk, hf, hs]
    cases doc.kind with
    | vm => exact (h.map _).append_right _
    | container => exact h.map _
  obtain ⟨hvm, hcontainer, rfl⟩ := disksOf_eq_ok_iff.1 hdisks
  rw [disksOf_eq_ok_iff, hk, hf, hs]
  refine ⟨fun hkind => ?_, fun hkind => ?_, Dict.ofList_perm ?_ (hdeclared.map _)⟩
  · obtain ⟨hvalid, hdistinct⟩ := hvm hkind
    exact ⟨fun b hb => hvalid b (h.mem_iff.2 hb), (h.map _).nodup_iff.1 hdistinct⟩
  · obtain ⟨hnone, hsingle, hroot⟩ := hcontainer hkind
    exact ⟨hnone, h.length_eq ▸ hsingle, fun b hb => hroot b (h.mem_iff.2 hb)⟩
  · rw [List.map_map]
    exact hnodup

/-! ## The whole document -/

/-- A document that lists its disks and tags in another order, and its tags perhaps more than once. -/
structure Reordered (doc other : Document) : Prop where
  disks : doc.disks.Perm other.disks
  tags : Option.Rel Retagged doc.tags other.tags
  rest : other = { doc with disks := other.disks, tags := other.tags }

/-- What a document declares does not depend on the order in which it lists its disks and tags, nor on how
often it lists a tag. -/
theorem desired_reordered (policy : Policy) {doc other : Document} (h : Reordered doc other) (d : Desired) :
    doc.desired policy = .ok d ↔ other.desired policy = .ok d := by
  obtain ⟨hperm, htags, hrest⟩ := h
  generalize other.disks = blocks at hperm hrest
  generalize other.tags = tags at htags hrest
  subst hrest
  have hdisks (disks : Dict Disk) : doc.disksOf policy = .ok disks ↔
      ({ doc with disks := blocks, tags := tags }).disksOf policy = .ok disks :=
    ⟨fun hok => disksOf_of_perm hok hperm rfl rfl rfl, fun hok => disksOf_of_perm hok hperm.symm rfl rfl rfl⟩
  have hsame : doc.tags.map tagsOf = tags.map tagsOf := by
    generalize doc.tags = listed at htags
    cases htags with
    | none => rfl
    | some h => exact congrArg some h.tagsOf_eq
  have hconfig (system disks nics init) : doc.configOf policy system disks nics init =
      ({ doc with disks := blocks, tags := tags }).configOf policy system disks nics init := by
    rw [configOf, hsame]
    rfl
  rw [desired_eq_ok_iff, desired_eq_ok_iff]
  simp only [hdisks, hconfig]
  rfl

/-- A virtual machine with a network device. -/
def taggedServer (disks : List DiskBlock) (tags : List String) : Document where
  node := "pve1"
  system := some {}
  tags := some tags
  disks := disks
  nics := some [{}]

/-- It boots from its SCSI disk, wherever that is listed; a no-break space around a tag does not count. -/
theorem desired_reordered_taggedServer :
    ∃ d, (taggedServer [{ interface := "virtio0" }, { interface := "scsi0" }] ["web", "db"]).desired {} = .ok d ∧
      d.config.bootOrder.value = ["scsi0", "net0"] ∧
      (taggedServer [{ interface := "scsi0" }, { interface := "virtio0" }] ["\u00a0db ", "db", "web"]).desired {} =
        .ok d := by
  have hblank : ∀ c ∈ ['\u00a0'], Text.isBlank c = true := List.forall_mem_singleton.2 rfl
  have hspace : ∀ c ∈ [' '], Text.isBlank c = true := List.forall_mem_singleton.2 rfl
  have hpad : Retagged ["db", "db", "web"] ["\u00a0db ", "db", "web"] := .pad hblank hspace _ _
  have htags : Retagged ["web", "db"] ["\u00a0db ", "db", "web"] :=
    ((Retagged.perm (.swap _ _ _)).trans (.copy (by simp))).trans hpad
  obtain ⟨d, hd⟩ : ∃ d, (taggedServer [{ interface := "virtio0" }, { interface := "scsi0" }]
      ["web", "db"]).desired {} = .ok d := ⟨_, rfl⟩
  refine ⟨d, hd, ?_, (desired_reordered {} ⟨.swap _ _ _, .some htags, rfl⟩ d).1 hd⟩
  cases hd
  rfl

end Document

end Steward
