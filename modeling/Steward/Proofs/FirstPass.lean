/-
The first pass over a new instance. Its drives are read back as the disks that were declared and as the one
drive with the first-boot settings, and those settings are read back as they were written. So the pass makes a
template of a container that is to be one, lets imported disks grow to their declared sizes, starts an instance
that is to run, and asks for nothing else (`pass_of_created`).
-/
import Mathlib
import Steward.Proofs.Creation

namespace Steward

open PropertyString

namespace Plan

variable {policy : Policy} {doc : Document} {desired : Desired} {id : UInt32} {remote : Remote}
    {status : Status}
  {observed : Observed}

/-! ## Drives -/

theorem initDrive?_eq_some_iff {slot : String} {want : CloudInit} :
    desired.initDrive? slot = some want ↔
      desired.kind = .vm ∧ desired.config.cloudInit = some want ∧ targetSlot want none = slot := by
  rw [Desired.initDrive?]
  cases desired.kind with
  | vm => simp [Option.filter_eq_some_iff]
  | container => simp

/-- A drive with the first-boot settings of the instance `id`. -/
structure HoldsInit (id : UInt32) (want : CloudInit) (drive : Drive) : Prop where
  cdrom : drive.isCdrom = true
  volume : CloudInit.isVolumeOf id drive.volume = true
  datastore : drive.disk.datastore = want.datastore

/-- In a slot of a new instance is what was asked for there. -/
theorem drive_created (hs : desired.StoredIn id remote) (hd : doc.desired policy = .ok desired)
    (hc : desired.config.Creatable desired.kind) {slot text : String}
      (hslot : slot ∈ Remote.driveKeys desired.kind)
    (ht : remote.text? slot = some text) :
    ∃ drive, Drive.ofText slot text = .ok drive ∧
      ((∃ disk, desired.config.disks.get? slot = some disk ∧ disk.HeldBy id drive) ∨
        ∃ want, desired.config.disks.get? slot = none ∧ desired.initDrive? slot = some want ∧
        HoldsInit id want drive) := by
  obtain ⟨config, hconfig⟩ := hs.drives slot hslot
  rw [Remote.text?, hconfig, Desired.driveText?] at ht
  cases hdisk : desired.config.disks.get? slot with
  | some disk =>
    rw [hdisk] at ht
    obtain rfl : Lab.allocated id config disk.toText = text := Option.some.inj ht
    have hcreatable := (hc.disks (slot, disk) (Dict.mem_entries_iff.2 hdisk)).2
    obtain ⟨drive, hread, hheld⟩ :=
      Disk.ofText_allocated hcreatable (Document.disks_spec hd hdisk).1 id config slot
    exact ⟨drive, hread, .inl ⟨disk, rfl, hheld⟩⟩
  | none =>
    cases hinit : desired.initDrive? slot with
    | none => rw [hdisk, hinit] at ht; cases ht
    | some want =>
      rw [hdisk, hinit] at ht
      obtain rfl : Lab.allocated id config (CloudInit.driveText want.datastore) = text := Option.some.inj ht
      obtain ⟨hk, hwant, -⟩ := initDrive?_eq_some_iff.1 hinit
      obtain ⟨drive, hread, hcdrom, hvolume, hstore⟩ :=
        CloudInit.ofText_allocated_driveText (isStore_of_isWord ((hc.init want hwant).datastore hk)) id config
          slot
      exact ⟨drive, hread, .inr ⟨want, rfl, rfl, hcdrom, hvolume, hstore⟩⟩

theorem exists_text_created (hs : desired.StoredIn id remote) {slot : String}
    (hslot : slot ∈ Remote.driveKeys desired.kind)
    (h : (desired.driveText? slot).isSome = true) : ∃ text, remote.text? slot = some text := by
  obtain ⟨config, hconfig⟩ := hs.drives slot hslot
  obtain ⟨asked, hasked⟩ := Option.isSome_iff_exists.1 h
  exact ⟨Lab.allocated id config asked, by rw [Remote.text?, hconfig, hasked]; rfl⟩

/-- A new instance can be observed. -/
theorem exists_observe_created (hs : desired.StoredIn id remote) (hd : doc.desired policy = .ok desired)
    (hc : desired.config.Creatable desired.kind) (node : String) (status : Status) :
    ∃ observed, remote.observe ⟨node, id, desired.kind⟩ status = .ok observed := by
  refine Remote.exists_observe_iff.2 ⟨fun slot hslot text htext => ?_, fun slot hslot => ?_⟩
  · obtain ⟨drive, hread, -⟩ := drive_created hs hd hc hslot htext
    exact ⟨drive, hread⟩
  · exact (nic_created hs (Document.config_declared hd) hc.texts hslot).1

/-! ## Disks -/

/-- The step by which an imported disk grows to its declared size. -/
def growStep? (slot : String) (want : Disk) : Option Intent :=
  if want.source.isSome ∧ want.sizeGib ≠ 0 then some ⟨.resizeDisk slot want.sizeGib, .diskGrowth,
    .nothing⟩ else none

/-- A plan that does nothing but resize disks. -/
def resizing (steps : List Intent) : DiskPlan := { DiskPlan.empty with resizes := steps }

theorem resizing_append (as bs : List Intent) : resizing as ++ resizing bs = resizing (as ++ bs) := rfl

theorem resizeDisk_created {slot : String} {want found : Disk} (hsize : found.sizeGib = want.createdSize)
    (howned : found.isOwnedBy id = true) (hclass : want.source.isSome = true → want.diskClass = .data) :
    resizeDisk id slot want found = resizing (growStep? slot want).toList := by
  rw [resizeDisk, hsize, Disk.createdSize, growStep?]
  cases hs : want.source with
  | none => simp [resizing, DiskPlan.empty]
  | some source =>
    have hdata : want.diskClass = .data := hclass (by rw [hs]; rfl)
    by_cases hz : want.sizeGib = 0
    · simp [hz, resizing, DiskPlan.empty]
    · simp [hz, hdata, howned, resizing]

theorem changeDisk_created {slot : String} {want : Disk} {drive : Drive} (h : want.HeldBy id drive)
    (hclass : want.source.isSome = true → want.diskClass = .data) :
    changeDisk id slot want (some drive.disk) = resizing (growStep? slot want).toList := by
  have hmove : moveDisk id slot want drive.disk = resizing [] := by
    rw [moveDisk, h.datastore, if_pos rfl]; rfl
  have hretune : retuneDisk slot want drive.disk = resizing [] := by
    rw [retuneDisk, if_neg fun hdiffers => hdiffers.2 (h.options hdiffers.1).symm]
    rfl
  rw [changeDisk, resizeDisk_created h.size h.owned hclass, hmove, hretune, resizing_append, resizing_append,
    List.append_nil, List.append_nil]

theorem foldl_resizing {plan : String → Disk → DiskPlan} {step? : String → Disk → Option Intent}
    {entries : List (String × Disk)}
    (h : ∀ slot disk, (slot, disk) ∈ entries → plan slot disk = resizing (step? slot disk).toList)
      (steps : List Intent) :
    (entries.map fun (slot, disk) => plan slot disk).foldl (· ++ ·) (resizing steps) =
      resizing (steps ++ entries.filterMap fun (slot, disk) => step? slot disk) := by
  induction entries generalizing steps with
  | nil => simp
  | cons entry entries ih =>
    obtain ⟨slot, disk⟩ := entry
    have hfirst := h slot disk (by simp)
    rw [List.map_cons, List.foldl_cons, List.filterMap_cons]
    dsimp only
    rw [hfirst, resizing_append, ih fun s d hmem => h s d (List.mem_cons_of_mem _ hmem), List.append_assoc]
    cases step? slot disk <;> rfl

/-- Imported disks grow, and no other disk has to be changed. -/
theorem disks_created (hs : desired.StoredIn id remote) (hd : doc.desired policy = .ok desired)
    (hc : desired.config.Creatable desired.kind) {node : String}
    (ho : remote.observe ⟨node, id, desired.kind⟩ status = .ok observed) :
    planDisks id desired.config.disks observed.config.disks =
      resizing (desired.config.disks.entries.filterMap fun (slot, disk) => growStep? slot disk) := by
  have hp := inPlace_of_creatable hd hc
  have hundeclared : undeclaredDisks desired.config.disks observed.config.disks = [] := by
    rw [undeclaredDisks, List.map_eq_nil_iff, List.filter_eq_nil_iff]
    rintro ⟨slot, found⟩ hmem
    obtain ⟨hslot, text, drive, htext, hread, hfixed, -⟩ :=
      (Remote.get?_disks_of_observe ho).1 (Dict.mem_entries_iff.1 hmem)
    obtain ⟨seen, hseen, hheld⟩ := drive_created hs hd hc hslot htext
    obtain rfl : seen = drive := Except.ok.inj (hseen.symm.trans hread)
    rcases hheld with ⟨disk, hdisk, -⟩ | ⟨want, -, hinit, hholds⟩
    · simp [Dict.contains_eq, hdisk]
    · -- the drive with the first-boot settings is none of the disks
      obtain ⟨hk, hwant, rfl⟩ := initDrive?_eq_some_iff.1 hinit
      have hcdrom := hholds.cdrom
      rw [hfixed (hp.drive hk want hwant)] at hcdrom
      cases hcdrom
  have hchange : ∀ slot disk, (slot, disk) ∈ desired.config.disks.entries →
      changeDisk id slot disk (observed.config.disks.get? slot) = resizing (growStep? slot disk).toList := by
    intro slot disk hmem
    have hdisk := Dict.mem_entries_iff.1 hmem
    have hslot := hp.disks slot (Dict.mem_keys_iff.2 (by simp [hdisk]))
    obtain ⟨text, htext⟩ := exists_text_created hs hslot (by simp [Desired.driveText?, hdisk])
    obtain ⟨drive, hread, hheld⟩ := drive_created hs hd hc hslot htext
    rcases hheld with ⟨found, hfound, hheld⟩ | ⟨want, hnone, -⟩
    · obtain rfl : found = disk := Option.some.inj (hfound.symm.trans hdisk)
      rw [(Remote.get?_disks_of_observe ho).2 ⟨hslot, text, drive, htext, hread, fun _ => hheld.fixed, rfl⟩]
      exact changeDisk_created hheld (Document.disks_spec hd hdisk).2.1
    · rw [hnone] at hdisk
      cases hdisk
  rw [planDisks]
  split
  · rename_i he
    rw [List.isEmpty_iff.1 (show desired.config.disks.entries.isEmpty = true from he)]
    rfl
  · rw [hundeclared]
    exact foldl_resizing hchange []

/-! ## First-boot settings -/

theorem setOrDelete_self (field param : String) (value : Option String) :
    setOrDelete field param value value = [] :=
  if_pos rfl

theorem text?_of_get? {key : String} {value : Option String} (h : remote.get? key = value.map .string) :
    remote.text? key = value := by
  rw [Remote.text?, h]
  cases value <;> rfl

/-- What is joined is cut into the same pieces again. -/
theorem fields_joined? {p : Char → Bool} {sep : String} {c : Char} (hc : sep.toList = [c]) (hp : p c = true)
    {items : List String} (hne : ∀ s ∈ items, s ≠ "") (hfree : ∀ s ∈ items, ∀ d ∈ s.toList, p d = false)
    (htrim : ∀ s ∈ items, Text.trim s.toList = s.toList) :
      ((joined? sep items).map (Text.fields p)).getD [] = items := by
  rw [joined?]
  split
  · rename_i he
    exact (List.isEmpty_iff.1 he).symm
  · exact Text.fields_join hc hp hne hfree htrim

theorem words_joined? {servers : List String} (h : ∀ s ∈ servers, IsToken s) :
    ((joined? " " servers).map Text.words).getD [] = servers :=
  fields_joined? rfl (by decide) (fun s hs => (h s hs).1) (fun s hs => (h s hs).2) fun s hs =>
    Text.trim_eq_self (Text.startsBlank_eq_false (h s hs).2) (Text.endsBlank_eq_false (h s hs).2)

theorem lines_joined? {keys : List String} (h : ∀ s ∈ keys, IsLine s)
    (ht : ∀ s ∈ keys, Text.trim s.toList = s.toList) :
    ((joined? "\n" keys).map Text.lines).getD [] = keys := by
  refine fields_joined? rfl (by decide) (fun s hs => (h s hs).1) (fun s hs c hc => ?_) ht
  have hne : c ≠ '\n' := fun he => (h s hs).2 (he ▸ hc)
  simpa using hne

theorem getD_resolver (remote : Remote) : remote.resolver.getD ⟨none, []⟩ =
    ⟨remote.text? "searchdomain", ((remote.text? "nameserver").map Text.words).getD []⟩ := by
  rw [Remote.resolver]
  cases remote.text? "searchdomain" <;> cases remote.text? "nameserver" <;> rfl

theorem getD_account (remote : Remote) : remote.account.getD ⟨none, none, []⟩ =
    ⟨remote.text? "ciuser", remote.text? "cipassword", ((remote.text? "sshkeys").map Text.lines).getD
    []⟩ := by
  rw [Remote.account]
  cases remote.text? "ciuser" <;> cases remote.text? "cipassword" <;> cases remote.text? "sshkeys" <;> rfl

theorem resolverIntents_eq_nil {want : Resolver} (hd : remote.text? "searchdomain" = want.domain)
    (hs : remote.text? "nameserver" = joined? " " want.servers) (h : ∀ s ∈ want.servers, IsToken s) :
    resolverIntents want remote.resolver = [] := by
  simp only [resolverIntents, getD_resolver, hd, hs, words_joined? h, setOrDelete_self, List.append_nil]

theorem passwordSettled_self (password : Option String) : passwordSettled password password = true := by
  cases password <;> simp [passwordSettled]

theorem accountIntents_eq_nil {want : Account} (hn : remote.text? "ciuser" = want.name)
    (hp : remote.text? "cipassword" = want.password) (hk : remote.text? "sshkeys" = joined? "\n" want.keys)
    (h : ∀ s ∈ want.keys, IsLine s) (ht : ∀ s ∈ want.keys, Text.trim s.toList = s.toList) :
    accountIntents want remote.account = [] := by
  simp only [accountIntents, getD_account, hn, hp, hk, lines_joined? h ht, setOrDelete_self,
    passwordSettled_self, if_true, List.append_nil]

theorem getElem?_ipConfigs (remote : Remote) {n : Nat} (h : n < Remote.maxIpConfigs) :
    ipConfigText? remote.ipConfigs[n]? =
      ipConfigText? ((remote.text? (IpConfig.slot n)).map IpConfig.ofText) := by
  have hempty : IpConfig.none.isEmpty = true := rfl
  by_cases hc : n < remote.slotCount IpConfig.slot Remote.maxIpConfigs
  · cases ht : remote.text? (IpConfig.slot n) <;> simp [Remote.ipConfigs, hc, ht, hempty, ipConfigText?]
  · have habsent : remote.text? (IpConfig.slot n) = none := by
      rw [Remote.text?, Remote.get?_eq_none_of_slotCount_le (by omega) h]
      rfl
    simp [Remote.ipConfigs, hc, habsent]

/-- What was written of addresses is written of those that are read back. -/
theorem ipConfigText?_ofText {ip : Option IpConfig} (h : ∀ c ∈ ip, c.Writable) :
    ipConfigText? ((ipConfigText? ip).map IpConfig.ofText) = ipConfigText? ip := by
  cases ip with
  | none => rfl
  | some c =>
    cases he : c.isEmpty with
    | true => simp [ipConfigText?, Option.filter_some, he]
    | false => simp [ipConfigText?, Option.filter_some, he, IpConfig.ofText_toText (h c rfl)]

theorem ipConfigIntents_eq_nil {want : List IpConfig} (hl : want.length ≤ Remote.maxIpConfigs)
    (hw : ∀ ip ∈ want, ip.Writable)
    (ht : ∀ n < Remote.maxIpConfigs, remote.text? (IpConfig.slot n) = ipConfigText? want[n]?) :
    ipConfigIntents want remote.ipConfigs = [] := by
  have hfound : remote.ipConfigs.length ≤ Remote.maxIpConfigs := by
    simpa [Remote.ipConfigs] using remote.slotCount_le IpConfig.slot Remote.maxIpConfigs
  refine List.flatMap_eq_nil_iff.2 fun n hn => ?_
  have hlt : n < Remote.maxIpConfigs := Nat.lt_of_lt_of_le (List.mem_range.1 hn) (Nat.max_le.2 ⟨hl, hfound⟩)
  rw [getElem?_ipConfigs remote hlt, ht n hlt, ipConfigText?_ofText fun c hc =>
    hw c (List.mem_of_getElem? hc)]
  exact setOrDelete_self _ _ _

/-- First-boot settings are read back as they were written. -/
theorem cloudInitUpdates_created (hs : desired.StoredIn id remote) (hd : doc.desired policy = .ok desired)
    (hc : desired.config.Creatable desired.kind) (hk : desired.kind = .vm) {want : CloudInit}
    (hw : desired.config.cloudInit = some want) (slot store : String) :
    cloudInitUpdates want (some (remote.cloudInitAt slot store)) = [] := by
  have hinit := hc.init want hw
  obtain ⟨haccount, hresolver, haddress⟩ := Desired.lookup?_initParams hinit.addresses.1
  have htext {key : String} (hkey : key ∈ Desired.initKeys) :
      remote.text? key = lookup? (Desired.initParams want) key :=
    text?_of_get? (by rw [hs.init hk key hkey, hw, Option.bind_some])
  have hwords : ∀ key ∈ Desired.accountKeys ++ Desired.resolverKeys, key ∈ Desired.initKeys := by decide
  have haccountText {key : String} (hkey : key ∈ Desired.accountKeys) :=
    (htext (hwords key (List.mem_append_left _ hkey))).trans (haccount key hkey)
  have hresolverText {key : String} (hkey : key ∈ Desired.resolverKeys) :=
    (htext (hwords key (List.mem_append_right _ hkey))).trans (hresolver key hkey)
  have haccountNil : ((want.account.map fun account => accountIntents account remote.account).getD []) =
      [] := by
    cases ha : want.account with
    | none => rfl
    | some account =>
      rw [ha] at haccountText
      refine accountIntents_eq_nil ((haccountText (by decide)).trans ?_) ((haccountText (by decide)).trans ?_)
        ((haccountText (by decide)).trans ?_) (hinit.keys account ha) (Document.trim_keys hd hw ha)
      all_goals simp [Desired.accountParams, lookup?_append]
  have hresolverNil : ((want.resolver.map fun resolver => resolverIntents resolver remote.resolver).getD
      []) = [] := by
    cases hr : want.resolver with
    | none => rfl
    | some resolver =>
      rw [hr] at hresolverText
      refine resolverIntents_eq_nil ((hresolverText (by decide)).trans ?_)
        ((hresolverText (by decide)).trans ?_) (hinit.servers resolver hr)
      all_goals simp [Desired.resolverParams, lookup?_append]
  have haddressNil : ipConfigIntents want.ipConfigs remote.ipConfigs = [] := by
    refine ipConfigIntents_eq_nil hinit.addresses.1 hinit.addresses.2 fun n hn => ?_
    have hmem : IpConfig.slot n ∈ Desired.initKeys :=
      List.mem_append_right _ (List.mem_map_of_mem (List.mem_range.2 hn))
    exact (htext hmem).trans (haddress n hn)
  simp only [cloudInitUpdates, Option.bind_some, Option.map_some, Option.getD_some, Remote.cloudInitAt,
    haccountNil, hresolverNil, haddressNil, List.append_nil]

/-- The drive is found where it was asked for. -/
theorem cloudInitDrive?_created (hs : desired.StoredIn id remote) (hd : doc.desired policy = .ok desired)
    (hc : desired.config.Creatable desired.kind) (hk : desired.kind = .vm) {want : CloudInit}
    (hw : desired.config.cloudInit = some want)
      (hfree : desired.config.disks.get? (targetSlot want none) = none)
    {drives : List (String × Drive)} (hdrives : remote.drivesIn driveSlots = .ok drives) :
    ∃ drive, Remote.cloudInitDrive? id drives = some (targetSlot want none, drive) ∧
      drive.disk.datastore = want.datastore := by
  have hp := inPlace_of_creatable hd hc
  have hmem {slot : String} (hslot : slot ∈ driveSlots) : slot ∈ Remote.driveKeys desired.kind := by
    rw [hk]
    exact List.mem_append_left _ hslot
  have htarget := hp.drive hk want hw
  have hinit : desired.initDrive? (targetSlot want none) = some want := initDrive?_eq_some_iff.2 ⟨hk, hw, rfl⟩
  obtain ⟨text, htext⟩ := exists_text_created hs (hmem htarget) (by simp [Desired.driveText?, hfree, hinit])
  obtain ⟨drive, hread, ⟨disk, hdisk, -⟩ | ⟨w, -, hw', hholds⟩⟩ := drive_created hs hd hc (hmem htarget) htext
  · rw [hfree] at hdisk
    cases hdisk
  have hfound : (Remote.cloudInitDrive? id drives).isSome = true := by
    rw [Remote.cloudInitDrive?, List.find?_isSome]
    refine ⟨_, (Remote.mem_drivesIn_iff hdrives).2 ⟨htarget, text, htext, hread⟩, ?_⟩
    simp [hholds.cdrom, hholds.volume]
  obtain ⟨⟨slot, found⟩, hfind⟩ := Option.isSome_iff_exists.1 hfound
  have hcdrom : found.isCdrom = true := by
    have hboth := List.find?_some (show drives.find? _ = some (slot, found) from hfind)
    exact (Bool.and_eq_true_iff.1 hboth).1
  -- no disk is a drive for media, so that what was found is the drive that was asked for
  obtain ⟨hslot, text', htext', hread'⟩ := (Remote.mem_drivesIn_iff hdrives).1
    (List.mem_of_find?_eq_some hfind)
  obtain ⟨seen, hseen, hheld⟩ := drive_created hs hd hc (hmem hslot) htext'
  obtain rfl : seen = found := Except.ok.inj (hseen.symm.trans hread')
  rcases hheld with ⟨disk, -, hheld⟩ | ⟨other, -, hother, hheld⟩
  · rw [hheld.fixed] at hcdrom
    cases hcdrom
  · obtain ⟨-, hwant, rfl⟩ := initDrive?_eq_some_iff.1 hother
    obtain rfl : other = want := Option.some.inj (hwant.symm.trans hw)
    exact ⟨seen, hfind, hheld.datastore⟩

/-- A drive that is where it is wanted stays there. -/
theorem needsRelocation_self (want : CloudInit) (before : Option CloudInit) (found : CloudInit)
    (hi : found.interface = some (targetSlot want before))
    (hs : found.datastore = want.datastore) : needsRelocation want (some found) = false := by
  have htarget : targetSlot want (some found) = targetSlot want before := by
    simp only [targetSlot, Option.bind_some, hi]
    cases want.interface <;> rfl
  rw [needsRelocation, htarget]
  simp [hi, hs]

theorem planCloudInit_created (hs : desired.StoredIn id remote) (hd : doc.desired policy = .ok desired)
    (hc : desired.config.Creatable desired.kind) (hk : desired.kind = .vm)
    (hfree : ∀ want ∈ desired.config.cloudInit, desired.config.disks.get? (targetSlot want none) = none)
    {drives : List (String × Drive)} (hdrives : remote.drivesIn driveSlots = .ok drives)
    (occupied : NameSet) :
    planCloudInit desired.config.cloudInit ((Remote.cloudInitDrive? id drives).map fun (slot, drive) =>
      remote.cloudInitAt slot drive.disk.datastore) occupied = .empty := by
  cases hw : desired.config.cloudInit with
  | none => rfl
  | some want =>
    obtain ⟨drive, hfind, hstore⟩ := cloudInitDrive?_created hs hd hc hk hw (hfree want hw) hdrives
    have hstays := needsRelocation_self want none (remote.cloudInitAt (targetSlot want none)
        drive.disk.datastore) rfl hstore
    have hupdates := cloudInitUpdates_created hs hd hc hk hw (targetSlot want none) drive.disk.datastore
    simp only [planCloudInit, hfind, Option.map_some, hstays, hupdates]
    rfl

theorem planContainerResolver_created (hs : desired.StoredIn id remote)
    (hc : desired.config.Creatable desired.kind)
    (hk : desired.kind = .container) {found : CloudInit} (hf : found.resolver = remote.resolver) :
    planContainerResolver desired.config.cloudInit (some found) = .empty := by
  have hupdates : ∀ want ∈ desired.config.cloudInit.bind (·.resolver),
      resolverIntents want remote.resolver = [] := by
    intro want hw
    obtain ⟨init, hinit, hresolver⟩ := Option.bind_eq_some_iff.1 hw
    have htext {key : String} (hkey : key ∈ ["searchdomain", "nameserver"]) :
        remote.text? key = lookup? desired.containerInitParams key := text?_of_get? (hs.resolver hk key hkey)
    refine resolverIntents_eq_nil ((htext (by decide)).trans ?_) ((htext (by decide)).trans ?_)
      ((hc.init init hinit).servers want hresolver)
    all_goals simp [Desired.containerInitParams, lookup?_append, hinit, hresolver]
  rw [planContainerResolver, Option.bind_some, hf]
  cases hw : desired.config.cloudInit.bind (·.resolver) with
  | none => rfl
  | some want =>
    dsimp only
    rw [hupdates want hw]
    rfl

theorem passCloudInit_created {request : CreateRequest} (hr : desired.createRequest = .ok request)
    (hs : desired.StoredIn id remote) (hd : doc.desired policy = .ok desired)
      (hc : desired.config.Creatable desired.kind)
    {node : String} (ho : remote.observe ⟨node, id, desired.kind⟩ status = .ok observed) :
    passCloudInit desired observed = .empty := by
  cases hk : desired.kind with
  | vm =>
    obtain ⟨params, hparams, -⟩ := Except.map_eq_ok_iff.1 hr
    rw [hk] at hparams
    obtain ⟨drives, firmware, hdrives, -, -, rfl⟩ := (Remote.observe_vm_eq_ok_iff hk).1 ho
    rw [passCloudInit, hk]
    exact planCloudInit_created hs hd hc hk (fun want hw => Desired.get?_disks_targetSlot hparams hw)
      hdrives _
  | container =>
    obtain ⟨root, -, -, rfl⟩ := (Remote.observe_container_eq_ok_iff hk).1 ho
    rw [passCloudInit, hk]
    exact planContainerResolver_created hs hc hk rfl

/-! ## The pass -/

/-- A pass over a stopped instance that moves neither instance nor drives starts it last, if it is to run. -/
theorem schedule_stopped {s : ScheduleInput} {growth : List Intent} (hi : s.cloudInit = .empty)
    (hd : s.disks = resizing growth)
    (hm : s.migrateTo = none) (hr : s.rebootRequired = false) (hw : s.wasRunning = false) :
    schedule s = ⟨s.config ++ growth ++
      if s.wantStarted && !s.template then [⟨.start, .powerState, .nothing⟩] else [], false⟩ := by
  have hwindow : s.windowOpen = false := by simp [ScheduleInput.windowOpen, hw]
  have hchanges : s.changes = s.config ++ growth := by
    simp [ScheduleInput.changes, hi, hd, resizing, CloudInitPlan.empty, DiskPlan.empty]
  have halignment : s.alignment = if s.wantStarted && !s.template then [⟨.start, .powerState,
      .nothing⟩] else [] := by
    cases ht : s.template <;> simp [ScheduleInput.alignment, hwindow, hw, ht]
  rw [schedule, hchanges, halignment]
  simp [ScheduleInput.migration, ScheduleInput.opening, ScheduleInput.restart, hm, hr, hwindow]

end Plan

/-- What creating an instance leaves to the first pass over it: a container becomes a template, and imported
disks grow. -/
def Desired.leftSteps (desired : Desired) : List Intent :=
  desired.templateStep?.toList ++ desired.config.disks.entries.filterMap fun (slot, disk) =>
    Plan.growStep? slot disk

/-- An instance that is to run is started, unless it is a template. -/
def Desired.startSteps (desired : Desired) : List Intent :=
  if desired.config.started.value && !desired.config.template.value then [⟨.start, .powerState,
    .nothing⟩] else []

namespace Plan

theorem planPass_created {policy : Policy} {doc : Document} {desired : Desired} {id : UInt32}
    {remote : Remote}
    {observed : Observed} {request : CreateRequest} (hr : desired.createRequest = .ok request)
    (hs : desired.StoredIn id remote) (hd : doc.desired policy = .ok desired)
      (hc : desired.config.Creatable desired.kind)
    (hi : desired.id = some id) {lock : Option String}
    (ho : remote.observe (desired.identity id) ⟨.stopped, lock⟩ = .ok observed) :
    (planPass desired observed false).failures = [] ∧
      (planPass desired observed false).plan = ⟨desired.leftSteps ++ desired.startSteps, false⟩ := by
  obtain ⟨hidentity, hstatus, -, devices, hconfig, -⟩ := Remote.observe_spec ho
  have hdiff : passDiff desired observed false = ⟨desired.templateStep?.toList, false, []⟩ := by
    rw [passDiff_eq ho]
    exact diffConfig_created hs hd hc.texts hi ho
  have hcloudInit : passCloudInit desired observed = .empty := passCloudInit_created hr hs hd hc ho
  have hdisks : passDisks desired observed =
      resizing (desired.config.disks.entries.filterMap fun (slot, disk) => growStep? slot disk) := by
    rw [passDisks, hidentity]
    exact disks_created hs hd hc ho
  have htemplate : (desired.config.template.value || observed.config.template.value) =
      desired.config.template.value := by
    rw [hconfig]
    exact template_or_readFlag hs
  refine ⟨by rw [planPass, hdiff, hdisks]; rfl, ?_⟩
  rw [planPass, schedule_stopped hcloudInit hdisks (by simp [passInput, hidentity, Desired.identity])
    (by simp [passInput, hdiff, hcloudInit, hdisks, CloudInitPlan.empty, DiskPlan.empty, resizing])
    (by rw [passInput, hstatus]; rfl)]
  simp only [passInput, htemplate, hdiff, Desired.leftSteps, Desired.startSteps]

end Plan

namespace Lab

/-- What is stored when an instance is created. -/
theorem find?_create (lab : Lab) (node : String) {request : CreateRequest} {id : UInt32}
    (h : request.id = some id) :
    (lab.create node request).2.find? ⟨node, id, request.kind⟩ =
      some ⟨node, request.kind, putAll id .empty request.params, false, none, 0, none⟩ := by
  simp [create, newId, h, find?, store, Dict.get?_insert, Option.filter_some]

end Lab

namespace Plan

/-- An instance that was created as declared is observed as declared: the first pass over it meets no failure
and owes no restart. It makes a template of a container that is to be one, lets imported disks grow to their
declared sizes, starts the instance if it is to run and is no template, and asks for nothing else. -/
theorem pass_of_created {policy : Policy} {doc : Document} {desired : Desired} {id : UInt32}
    {request : CreateRequest}
    (lab : Lab) (lock : Option String) (hd : doc.desired policy = .ok desired) (hi : doc.id = some id)
    (hr : desired.createRequest = .ok request) (hc : desired.config.Creatable desired.kind) :
    ∃ machine observed, (lab.create desired.node request).2.find? (desired.identity id) = some machine ∧
      Remote.observe machine.config (desired.identity id) ⟨.stopped, lock⟩ = .ok observed ∧
      (planPass desired observed false).failures = [] ∧
      (planPass desired observed false).plan = ⟨desired.leftSteps ++ desired.startSteps, false⟩ := by
  have hid : desired.id = some id := by
    obtain ⟨-, -, _, _, _, _, -, -, -, -, rfl⟩ := Document.desired_eq_ok_iff.1 hd
    exact hi
  obtain ⟨params, -, rfl⟩ := Except.map_eq_ok_iff.1 hr
  have hs := Desired.storedIn_of_createRequest hr (inPlace_of_creatable hd hc) id
  obtain ⟨observed, ho⟩ := exists_observe_created hs hd hc desired.node ⟨.stopped, lock⟩
  exact ⟨_, observed, Lab.find?_create lab desired.node hid, ho, planPass_created hr hs hd hc hid ho⟩

/-- A server with a disk that is imported and is to grow. -/
def newServer : Document where
  node := "pve1"
  id := some 100
  system := some { osType := some "l26" }
  name := some "web"
  disks := [{ interface := "scsi0", source := some "local:iso/debian.qcow2", sizeGib := some 20 },
    { interface := "virtio1", sizeGib := some 8, cache := some "writeback" }]
  nics := some [{ vlan := some 10 }]
  init := some
    { resolver := some ⟨some "lan", ["1.1.1.1", "9.9.9.9"]⟩
      ipConfigs := [{ ipv4 := some { address := some "dhcp" } }]
      account := some ⟨some "admin", none, ["ssh-ed25519 AAAA", "ssh-rsa BBBB"]⟩ }

/-- A container that is to be a template. -/
def newTemplate : Document where
  node := "pve1"
  id := some 100
  kind := .container
  template := some true
  system := some { osType := some "debian", template := some "local:vztmpl/debian.tar" }

theorem pass_of_created_newServer : ∃ desired request, newServer.desired {} = .ok desired ∧
    newServer.id = some 100 ∧
    desired.createRequest = .ok request ∧ desired.config.Creatable desired.kind ∧
    ∃ machine observed, ((Lab.mk .empty .empty 0 0 0).create "pve1" request).2.find? ⟨"pve1", 100, .vm⟩ =
      some machine ∧ Remote.observe machine.config ⟨"pve1", 100, .vm⟩ ⟨.stopped, none⟩ = .ok observed ∧
      (planPass desired observed false).plan =
        ⟨[⟨.resizeDisk "scsi0" 20, .diskGrowth, .nothing⟩, ⟨.start, .powerState, .nothing⟩], false⟩ := by
  obtain ⟨desired, hd⟩ : ∃ desired, newServer.desired {} = .ok desired := ⟨_, rfl⟩
  obtain ⟨request, hr⟩ : ∃ request, desired.createRequest = .ok request := by
    cases hd
    exact ⟨_, rfl⟩
  have hc : desired.config.Creatable desired.kind := by
    cases hd
    decide +kernel
  have hsteps : desired.leftSteps ++ desired.startSteps =
      [⟨.resizeDisk "scsi0" 20, .diskGrowth, .nothing⟩, ⟨.start, .powerState, .nothing⟩] := by
    cases hd
    decide +kernel
  have hidentity : desired.identity 100 = ⟨"pve1", 100, .vm⟩ := by
    cases hd
    rfl
  have hnode : desired.node = "pve1" := congrArg Identity.node hidentity
  obtain ⟨machine, observed, hfound, hobserved, -, hplan⟩ :=
    pass_of_created ⟨.empty, .empty, 0, 0, 0⟩ none hd rfl hr hc
  rw [hidentity] at hfound hobserved
  rw [hnode] at hfound
  exact ⟨desired, request, hd, rfl, hr, hc, machine, observed, hfound, hobserved, hsteps ▸ hplan⟩

/-- The first pass over the new instance asks for more than its start, though every text is a word. -/
def Unfinished (doc : Document) : Prop :=
  ∃ desired request observed, doc.desired {} = .ok desired ∧ doc.id = some 100 ∧ doc.clone = none ∧
    desired.createRequest = .ok request ∧ desired.config.InWords ∧ desired.config.Creatable desired.kind ∧
    Remote.observe (Lab.putAll 100 .empty request.params) (desired.identity 100) ⟨.stopped, none⟩ =
      .ok observed ∧
    (planPass desired observed false).plan.intents ≠ desired.startSteps

theorem unfinished_of_leftSteps {doc : Document} (hi : doc.id = some 100) (hn : doc.clone = none)
    (h : ∃ desired request, doc.desired {} = .ok desired ∧ desired.createRequest = .ok request ∧
      desired.id = some 100 ∧
      desired.config.InWords ∧ desired.config.Creatable desired.kind ∧ desired.leftSteps ≠ []) :
      Unfinished doc := by
  obtain ⟨desired, request, hd, hr, hid, hw, hc, hleft⟩ := h
  have hs := Desired.storedIn_of_createRequest hr (inPlace_of_creatable hd hc) 100
  obtain ⟨observed, ho⟩ := exists_observe_created hs hd hc desired.node ⟨.stopped, none⟩
  refine ⟨desired, request, observed, hd, hi, hn, hr, hw, hc, ho, ?_⟩
  rw [(planPass_created hr hs hd hc hid ho).2]
  simpa using hleft

/-- A disk that is imported grows only after the instance was created, and a container becomes a template only
then. -/
theorem unfinished_import_template : Unfinished newServer ∧ Unfinished newTemplate :=
  ⟨unfinished_of_leftSteps rfl rfl ⟨_, _, rfl, rfl,
    rfl, by decide +kernel, by decide +kernel, by decide +kernel⟩,
    unfinished_of_leftSteps rfl rfl ⟨_, _, rfl, rfl,
    rfl, by decide +kernel, by decide +kernel, by decide +kernel⟩⟩

end Plan

end Steward
