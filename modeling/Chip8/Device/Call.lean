/-!
# Calls of the devices

What the processor asks of its devices, in the order in which it asks.

## Main definitions

* `Chip8.DeviceCall` : a call of a device, with its answer.
-/

namespace Chip8

/-- A call of a device. -/
inductive DeviceCall where
  /-- A pixel was inverted. The answer says whether it was lit. -/
  | pixel (x y : Int) (erased : Bool)
  /-- Every pixel was turned off. -/
  | clear
  /-- A frame was rendered. -/
  | render
  /-- A key was asked for. The answer says whether it was down. -/
  | query (key : Int) (down : Bool)
  /-- A hook was installed for the next key. -/
  | hook
  /-- The tone was started or changed. -/
  | play (frequency : Float)
  /-- The tone was ended. -/
  | stop

end Chip8
