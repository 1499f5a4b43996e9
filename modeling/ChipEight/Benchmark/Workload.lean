import ChipEight.Options.Setting
import ChipEight.Text.Lowercase

/-!
# Workloads

Small programs that keep a machine busy with one kind of instruction each, in a
loop without an end, and for how many instructions they are run.
-/

namespace ChipEight.Benchmark

/-- A program to be run for so many instructions. -/
structure Workload where
  name : String
  image : List UInt8
  limit : Options.Setting Int
  description : String
  deriving DecidableEq, Repr

/-- The image of some words. -/
def imageOf (words : List UInt16) : List UInt8 :=
  words.flatMap fun w => [(w / 256).toUInt8, w.toUInt8]

namespace Workload

/-- Arithmetic between registers. -/
def arithmetic : Workload where
  name := "alu"
  image := imageOf [
    0x6001,  -- LD V0, 1
    0x8104,  -- ADD V1, V0
    0x8215,  -- SUB V2, V1
    0x8313,  -- XOR V3, V1
    0x830E,  -- SHL V3
    0x1202]  -- JP 0x202
  limit := .given 300000
  description := "Register arithmetic (8XYN heavy)"

/-- Drawing the glyph of zero all over the screen. -/
def drawing : Workload where
  name := "draw"
  image := imageOf [
    0xA050,  -- LD I, 0x050
    0xC03F,  -- RND V0, 0x3F
    0xC11F,  -- RND V1, 0x1F
    0xD015,  -- DRW V0, V1, 5
    0x1202]  -- JP 0x202
  limit := .given 200000
  description := "Sprite blits at random positions"

/-- Storing decimal digits and loading them again. -/
def decimals : Workload where
  name := "bcd"
  image := imageOf [
    0xA300,  -- LD I, 0x300
    0x7001,  -- ADD V0, 1
    0xF033,  -- LD B, V0
    0xF265,  -- LD V2, [I]
    0xA300,  -- LD I, 0x300
    0x1202]  -- JP 0x202
  limit := .given 200000
  description := "BCD conversion and block loads"

/-- Calling a subroutine. -/
def calling : Workload where
  name := "call"
  image := imageOf [
    0x2206,  -- CALL 0x206
    0x1200,  -- JP 0x200
    0x0000,
    0x7001,  -- ADD V0, 1
    0x00EE]  -- RET
  limit := .given 300000
  description := "Subroutine call/return"

/-- All workloads. -/
def all : List Workload := [arithmetic, drawing, decimals, calling]

/-- Whether some characters stand in a row within others. -/
def occursIn (part : List Char) : List Char → Bool
  | [] => part.isEmpty
  | c :: rest => part.isPrefixOf (c :: rest) || occursIn part rest

/-- The workloads whose names hold a text, upper and lower case alike. -/
def matching (text : String) : List Workload :=
  all.filter fun w => occursIn (Text.lowerString text).toList (Text.lowerString w.name).toList

end Workload

end ChipEight.Benchmark
