/-!
The least and the greatest integers of 32 and 64 bits, with sign and without, and the end of the
clock.
-/
namespace PipelineObserver.Bounds

def greatestUnsigned32 : Nat := 0xFFFFFFFF

def greatestUnsigned64 : Nat := 0xFFFFFFFFFFFFFFFF

def least32 : Int := -0x80000000

def greatest32 : Int := 0x7FFFFFFF

def least64 : Int := -0x8000000000000000

def greatest64 : Int := 0x7FFFFFFFFFFFFFFF

/-- The last time of the clock, which counts whole seconds in a signed integer of 64 bits. -/
def lastTime : Nat := 0x7FFFFFFFFFFFFFFF * 1000 + 999

end PipelineObserver.Bounds
