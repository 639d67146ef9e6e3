import AppBundle.ModelError

/-! # Target platforms

The nine pairs of operating system and processor for which a bundle can be made. Their order is the
order of `Platform.all`, which is also the order of their names.
-/

namespace AppBundle

/-- Operating system and processor architecture that a bundle is made for. -/
inductive Platform where
  | linuxAarch64
  | linuxArmv7l
  | linuxPowerpc64le
  | linuxS390x
  | linuxX86_64
  | macosAarch64
  | macosX86_64
  | windowsAarch64
  | windowsX86_64
deriving DecidableEq, Repr

namespace Platform

/-- Every platform, in ascending order. -/
def all : List Platform :=
  [linuxAarch64, linuxArmv7l, linuxPowerpc64le, linuxS390x, linuxX86_64, macosAarch64, macosX86_64,
    windowsAarch64, windowsX86_64]

/-- Name of the operating system. -/
def os : Platform → String
  | linuxAarch64 | linuxArmv7l | linuxPowerpc64le | linuxS390x | linuxX86_64 => "linux"
  | macosAarch64 | macosX86_64 => "macos"
  | windowsAarch64 | windowsX86_64 => "windows"

/-- The name by which documents refer to a platform. -/
def name : Platform → String
  | linuxAarch64 => "linux-aarch64"
  | linuxArmv7l => "linux-armv7l"
  | linuxPowerpc64le => "linux-powerpc64le"
  | linuxS390x => "linux-s390x"
  | linuxX86_64 => "linux-x86_64"
  | macosAarch64 => "macos-aarch64"
  | macosX86_64 => "macos-x86_64"
  | windowsAarch64 => "windows-aarch64"
  | windowsX86_64 => "windows-x86_64"

/-- Name of the processor family, which leaves out word order and revision. -/
def architecture : Platform → String
  | linuxAarch64 | macosAarch64 | windowsAarch64 => "aarch64"
  | linuxArmv7l => "arm"
  | linuxPowerpc64le => "powerpc64"
  | linuxS390x => "s390x"
  | linuxX86_64 | macosX86_64 | windowsX86_64 => "x86_64"

/-- Whether the operating system is Windows. -/
def isWindows (platform : Platform) : Bool := platform.os = "windows"

/-- The platform with the given name. -/
def parse (name : String) : Except ModelError Platform :=
  match all.find? (·.name = name) with
  | some platform => .ok platform
  | none => .error (.unknownPlatform name)

/-- Position of a platform in `Platform.all`. -/
def position : Platform → Nat
  | linuxAarch64 => 0
  | linuxArmv7l => 1
  | linuxPowerpc64le => 2
  | linuxS390x => 3
  | linuxX86_64 => 4
  | macosAarch64 => 5
  | macosX86_64 => 6
  | windowsAarch64 => 7
  | windowsX86_64 => 8

theorem all_getElem?_position (platform : Platform) : all[platform.position]? = some platform := by
  cases platform <;> rfl

instance : Ord Platform := ⟨compareOn position⟩

instance : Std.TransOrd Platform :=
  inferInstanceAs (Std.TransCmp (compareOn position))

instance : Std.LawfulEqOrd Platform where
  eq_of_compare {a b} same := by
    have positions : a.position = b.position := Std.LawfulEqOrd.eq_of_compare (α := Nat) same
    have found := all_getElem?_position a
    rw [positions, all_getElem?_position b] at found
    exact (Option.some.inj found).symm

theorem mem_all (platform : Platform) : platform ∈ all := by cases platform <;> decide

theorem parse_name (platform : Platform) : parse platform.name = .ok platform := by
  cases platform <;> rfl

theorem name_of_parse {name : String} {platform : Platform} (parsed : parse name = .ok platform) :
    platform.name = name := by
  unfold parse at parsed
  split at parsed
  · next found =>
    cases parsed
    simpa using List.find?_some found
  · cases parsed

end Platform

end AppBundle
