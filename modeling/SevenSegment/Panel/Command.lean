namespace SevenSegment.Panel.Command

def dataSetting : UInt8 := 0x40

def fixedAddress : UInt8 := 0x04

def testMode : UInt8 := 0x08

def addressSetting : UInt8 := 0xC0

-- Without a flag the display goes dark.
def displayControl : UInt8 := 0x80

def displayOn : UInt8 := 0x08

def pulseWidthMask : UInt8 := 0x07

end SevenSegment.Panel.Command
