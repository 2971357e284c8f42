import ShutterGateway.Text.Label

/-!
What a node drives. On the wire the type shares a sixteen-bit field with a subtype: the type takes
the upper ten bits and the subtype the lower six. The main facts are that joining the two parts of
a field gives the field back, and that the parts of a joined field are what fits of each.
-/

namespace ShutterGateway

/-- What a node drives. -/
inductive NodeType where
  | interiorVenetianBlind
  | rollerShutter
  | verticalExteriorAwning
  | windowOpener
  | garageDoorOpener
  | light
  | gateOpener
  | lock
  | verticalInteriorBlind
  | dualRollerShutter
  | onOffSwitch
  | horizontalAwning
  | exteriorVenetianBlind
  | louverBlind
  | curtainTrack
  | ventilationPoint
  | exteriorHeating
  | swingingShutter
  | bladeOpener
  /-- A number without a name of its own. -/
  | unknown (code : UInt16)
  deriving DecidableEq, Repr

namespace NodeType

/-- The value with a number. -/
def ofCode : UInt16 → NodeType
  | 1 => interiorVenetianBlind
  | 2 => rollerShutter
  | 3 => verticalExteriorAwning
  | 4 => windowOpener
  | 5 => garageDoorOpener
  | 6 => light
  | 7 => gateOpener
  | 9 => lock
  | 10 => verticalInteriorBlind
  | 13 => dualRollerShutter
  | 15 => onOffSwitch
  | 16 => horizontalAwning
  | 17 => exteriorVenetianBlind
  | 18 => louverBlind
  | 19 => curtainTrack
  | 20 => ventilationPoint
  | 21 => exteriorHeating
  | 24 => swingingShutter
  | 29 => bladeOpener
  | code => unknown code

/-- The number of a value. -/
def code : NodeType → UInt16
  | interiorVenetianBlind => 1
  | rollerShutter => 2
  | verticalExteriorAwning => 3
  | windowOpener => 4
  | garageDoorOpener => 5
  | light => 6
  | gateOpener => 7
  | lock => 9
  | verticalInteriorBlind => 10
  | dualRollerShutter => 13
  | onOffSwitch => 15
  | horizontalAwning => 16
  | exteriorVenetianBlind => 17
  | louverBlind => 18
  | curtainTrack => 19
  | ventilationPoint => 20
  | exteriorHeating => 21
  | swingingShutter => 24
  | bladeOpener => 29
  | unknown code => code

@[simp] theorem code_ofCode (number : UInt16) : (ofCode number).code = number := by
  unfold ofCode
  split <;> rfl

/-- The label of a value. -/
def label : NodeType → Label
  | interiorVenetianBlind => .named "InteriorVenetianBlind"
  | rollerShutter => .named "RollerShutter"
  | verticalExteriorAwning => .named "VerticalExteriorAwning"
  | windowOpener => .named "WindowOpener"
  | garageDoorOpener => .named "GarageDoorOpener"
  | light => .named "Light"
  | gateOpener => .named "GateOpener"
  | lock => .named "Lock"
  | verticalInteriorBlind => .named "VerticalInteriorBlind"
  | dualRollerShutter => .named "DualRollerShutter"
  | onOffSwitch => .named "OnOffSwitch"
  | horizontalAwning => .named "HorizontalAwning"
  | exteriorVenetianBlind => .named "ExteriorVenetianBlind"
  | louverBlind => .named "LouverBlind"
  | curtainTrack => .named "CurtainTrack"
  | ventilationPoint => .named "VentilationPoint"
  | exteriorHeating => .named "ExteriorHeating"
  | swingingShutter => .named "SwingingShutter"
  | bladeOpener => .named "BladeOpener"
  | unknown code => .numbered "Unknown" code.toNat

/-- The two parts of a type field: the number of the type and the subtype. -/
def split (field : UInt16) : UInt16 × UInt8 :=
  (UInt16.ofNat (field.toNat / 64), UInt8.ofNat (field.toNat % 64))

/-- The type field of a type number and a subtype. What does not fit ten or six bits is lost. -/
def join (type : UInt16) (subtype : UInt8) : UInt16 :=
  UInt16.ofNat (type.toNat * 64 + subtype.toNat % 64)

@[simp] theorem join_split (field : UInt16) : join (split field).1 (split field).2 = field := by
  have h := field.toNat_lt
  apply UInt16.toNat_inj.mp
  simp only [join, split, UInt16.toNat_ofNat', UInt8.toNat_ofNat']
  omega

@[simp] theorem split_join (type : UInt16) (subtype : UInt8) :
    split (join type subtype)
      = (UInt16.ofNat (type.toNat % 1024), UInt8.ofNat (subtype.toNat % 64)) := by
  have h := type.toNat_lt
  have h' := subtype.toNat_lt
  simp only [join, split, UInt16.toNat_ofNat', Prod.mk.injEq]
  constructor
  · apply UInt16.toNat_inj.mp
    simp only [UInt16.toNat_ofNat']
    omega
  · apply UInt8.toNat_inj.mp
    simp only [UInt8.toNat_ofNat']
    omega

end NodeType

end ShutterGateway
