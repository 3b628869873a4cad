/-
This file holds the figures that are fixed when a board image is built: the
load monitor's pace and task, the tick, the watchdog's range, the start-up RAM
disk, and the identity a board has unless the mission gives it another one.
-/

namespace BoardSupport.Settings

/-! ### Load monitor -/

/-- Pause between two load samples, in milliseconds. -/
def sampleDelay : UInt32 := 1000

def processorCount : Nat := 1

def samplingStack : Nat := 4096

/-- Priority of the task that runs when nothing else does. -/
def idlePriority : UInt8 := 0

def samplingPriority : UInt8 := idlePriority + 5

def fullLoad : UInt32 := 100

/-- Name of the sampling task, and of the load monitor as a device. -/
def monitorName : String := "freertos_sysmon"

/-! ### Time base -/

def tickRate : UInt32 := 1000

/-- Frequency of the processor clock, in hertz. -/
def processorClock : UInt32 := 16000000

/-- Advertised rollover of the low timebase word; zero says that none is advertised. -/
def timebaseRollover : UInt32 := 0

/-! ### Watchdog -/

/-- Longest watchdog timeout in milliseconds, and the one a new watchdog starts from. -/
def longestTimeout : UInt32 := 0xFFFFFFFF

/-! ### Start-up -/

def diskDevice : String := "/ramdev1"

def diskVolume : String := "RAM1"

def mountPoint : String := "/cf"

def sectorSize : Nat := 128

def sectorCount : Nat := 26

def scriptPath : String := "/cf/cfe_es_startup.scr"

/-- Mode handed to the flight software on entry. -/
def startupMode : UInt32 := 1

/-! ### Identity -/

def processorNumber : UInt32 := 1

def processorName : String := "cpu1"

def spacecraftNumber : UInt32 := 0x42

def deviceCapacity : Nat := 4

end BoardSupport.Settings
