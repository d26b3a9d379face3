/-!
# The memory map

Sizes and places of the machine's parts: 4096 bytes that hold the font from the
start, programs from `0x200`, the call stack from `0xEA0` and the display from `0xF00`.
-/

namespace Chip8

/-- The count of memory bytes; addresses count modulo it. -/
abbrev memorySize : Nat := 4096

abbrev programStart : Nat := 0x200

/-- The last byte of a program of greatest size. -/
abbrev programEnd : Nat := 0xEBF

abbrev programSize : Nat := programEnd - programStart + 1

abbrev stackStart : Nat := 0xEA0

/-- The count of return addresses that the stack holds. -/
abbrev stackDepth : Nat := 16

/-- The count of bytes that the stack holds. -/
abbrev stackSize : Nat := stackDepth * 2

abbrev displayStart : Nat := 0xF00

abbrev displayEnd : Nat := 0xFFF

abbrev displaySize : Nat := displayEnd - displayStart + 1

abbrev displayWidth : Nat := 64

abbrev displayHeight : Nat := 32

/-- The count of bytes of an instruction. -/
abbrev instructionSize : Nat := 2

abbrev skipSize : Nat := instructionSize * 2

abbrev registerCount : Nat := 16

abbrev flagRegister : Fin registerCount := 15

/-- The register that a jump may be counted from. -/
abbrev baseRegister : Fin registerCount := 0

abbrev keyCount : Nat := 16

abbrev fontStart : Nat := 0

/-- The count of bytes of a glyph. -/
abbrev glyphSize : Nat := 5

/-- The glyphs of the sixteen digits, five rows of four pixels each. -/
def font : List UInt8 := [
  0xF0, 0x90, 0x90, 0x90, 0xF0,
  0x20, 0x60, 0x20, 0x20, 0x70,
  0xF0, 0x10, 0xF0, 0x80, 0xF0,
  0xF0, 0x10, 0xF0, 0x10, 0xF0,
  0x90, 0x90, 0xF0, 0x10, 0x10,
  0xF0, 0x80, 0xF0, 0x10, 0xF0,
  0xF0, 0x80, 0xF0, 0x90, 0xF0,
  0xF0, 0x10, 0x20, 0x40, 0x40,
  0xF0, 0x90, 0xF0, 0x90, 0xF0,
  0xF0, 0x90, 0xF0, 0x10, 0xF0,
  0xF0, 0x90, 0xF0, 0x90, 0x90,
  0xE0, 0x90, 0xE0, 0x90, 0xE0,
  0xF0, 0x80, 0x80, 0x80, 0xF0,
  0xE0, 0x90, 0x90, 0x90, 0xE0,
  0xF0, 0x80, 0xF0, 0x80, 0xF0,
  0xF0, 0x80, 0xF0, 0x80, 0x80]

/-- The figures of the memory map under their published names. -/
def publishedFigures : List (String × Nat) := [
  ("MEMORY_SIZE", memorySize),
  ("ADDRESS_MASK", memorySize - 1),
  ("PROGRAM_OFFSET", programStart),
  ("PROGRAM_END", programEnd),
  ("PROGRAM_SIZE", programSize),
  ("STACK_OFFSET", stackStart),
  ("STACK_DEPTH", stackDepth),
  ("STACK_SIZE", stackSize),
  ("DISPLAY_OFFSET", displayStart),
  ("DISPLAY_END", displayEnd),
  ("DISPLAY_SIZE", displaySize),
  ("DISPLAY_WIDTH", displayWidth),
  ("DISPLAY_HEIGHT", displayHeight),
  ("INSTRUCTION_SIZE", instructionSize),
  ("SKIP_SIZE", skipSize),
  ("REGISTER_COUNT", registerCount),
  ("FLAG_REGISTER", flagRegister),
  ("BYTE_MASK", 0xFF),
  ("WORD_MASK", 0xFFFF),
  ("INSTRUCTION_RATE", 200),
  ("TIMER_CYCLE", 2),
  ("KEY_COUNT", keyCount),
  ("FONT_OFFSET", fontStart),
  ("GLYPH_SIZE", glyphSize),
  ("GLYPH_COUNT", font.length / glyphSize)]

end Chip8
