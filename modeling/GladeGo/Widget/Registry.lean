import GladeGo.Widget.Class

/-! # Registries

A registry knows the classes of widgets and of windows by their base, one class for each base, and
the bases of objects that are passed over. Among these is the base of spacers. -/

namespace GladeGo

/-- The registered classes, in the order of their registration. -/
structure Registry where
  descriptors : List Descriptor
  windows : List WindowClass
  /-- The bases of objects that are passed over together with what is inside them. -/
  ignored : List String
  /-- The base of spacers. -/
  spacer : Option String
  deriving Repr, DecidableEq

namespace Registry

/-- The registry that knows nothing. -/
def empty : Registry := ⟨[], [], [], none⟩

/-- The descriptor registered under `base`. -/
def descriptor? (registry : Registry) (base : String) : Option Descriptor :=
  registry.descriptors.find? fun descriptor => descriptor.base == base

/-- The window class registered under `base`. -/
def window? (registry : Registry) (base : String) : Option WindowClass :=
  registry.windows.find? fun window => window.base == base

/-- Whether a class is registered under `base`. -/
def knows (registry : Registry) (base : String) : Bool :=
  (registry.descriptor? base).isSome || (registry.window? base).isSome

/-- Registers a descriptor under its base, which must be new. -/
def register (registry : Registry) (descriptor : Descriptor) : Except RegistrationFault Registry :=
  if registry.knows descriptor.base then .error (.descriptorTwice descriptor.base)
  else .ok { registry with descriptors := registry.descriptors ++ [descriptor] }

/-- Registers a window class under its base, which must be new. -/
def registerWindow (registry : Registry) (window : WindowClass) :
    Except RegistrationFault Registry :=
  if registry.knows window.base then .error (.windowTwice window.base)
  else .ok { registry with windows := registry.windows ++ [window] }

/-- Passes over objects with this base. -/
def ignore (registry : Registry) (base : String) : Registry :=
  { registry with ignored := putBy id base registry.ignored }

/-- Makes `base` the base of spacers, which are passed over outside of sizers. -/
def setSpacer (registry : Registry) (base : String) : Registry :=
  { registry.ignore base with spacer := some base }

/-- Whether objects with this base are passed over. -/
def isIgnored (registry : Registry) (base : String) : Bool := registry.ignored.contains base

/-- Whether objects with this base are spacers. -/
def isSpacer (registry : Registry) (base : String) : Bool := registry.spacer == some base

/-- The bases of the registered descriptors, in the order of their registration. -/
def bases (registry : Registry) : List String := registry.descriptors.map Descriptor.base

/-- The number of registered descriptors. -/
def size (registry : Registry) : Nat := registry.descriptors.length

end Registry

end GladeGo
