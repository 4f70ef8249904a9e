/-
Values with their origin. Two sides that merely report what they do when nothing is said do not
disagree: a default of this side facing a default of the hypervisor is no difference, whatever the
values are.
-/
namespace Steward

/-- Where a value comes from. -/
inductive Origin
  /-- Written by the user, or reported by the hypervisor. -/
  | explicit
  /-- Left out by the user and taken from the policy. -/
  | policy
  /-- Left out by the hypervisor and known to be what it does then. -/
  | hypervisor
  deriving DecidableEq, Repr

structure Setting (α : Type) where
  value : α
  origin : Origin
  deriving DecidableEq, Repr

namespace Setting

variable {α β : Type}

def explicit (value : α) : Setting α := ⟨value, .explicit⟩

/-- What the user wrote, or else the policy's value. -/
def declared (written : Option α) (default : α) : Setting α :=
  match written with
  | some value => ⟨value, .explicit⟩
  | none => ⟨default, .policy⟩

/-- What the hypervisor reports, or else what it does when it reports nothing. -/
def reported (read : Option α) (default : α) : Setting α :=
  match read with
  | some value => ⟨value, .explicit⟩
  | none => ⟨default, .hypervisor⟩

def map (f : α → β) (s : Setting α) : Setting β := ⟨f s.value, s.origin⟩

def isExplicit (s : Setting α) : Bool := s.origin == .explicit

def isPolicy (s : Setting α) : Bool := s.origin == .policy

def isHypervisor (s : Setting α) : Bool := s.origin == .hypervisor

/-- Two settings that share one parameter: the pair is a default only if both are, of one origin. -/
def zip (a : Setting α) (b : Setting β) : Setting (α × β) :=
  ⟨(a.value, b.value), if a.origin = b.origin then a.origin else .explicit⟩

/-- Whether the hypervisor must be told in order to move from `observed` to this setting. -/
def differsFrom [DecidableEq α] (desired observed : Setting α) : Bool :=
  decide (desired.value ≠ observed.value) && !(desired.isPolicy && observed.isHypervisor)

end Setting

end Steward
