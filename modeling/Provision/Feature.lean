import Provision.Release
import Provision.Text.Blank

namespace Provision

inductive Feature where
  | llvm11
  | llvm12
  | llvm13
  | llvm14
  deriving DecidableEq, Repr

namespace Feature

def all : List Feature := [.llvm11, .llvm12, .llvm13, .llvm14]

def standard : Feature := .llvm14

def tag : Feature → String
  | .llvm11 => "llvm11-0"
  | .llvm12 => "llvm12-0"
  | .llvm13 => "llvm13-0"
  | .llvm14 => "llvm14-0"

def releaseHost : String := "https://github.com/llvm/llvm-project/releases/download"

def releasePath : Feature → String
  | .llvm11 => "llvmorg-11.1.0/clang+llvm-11.1.0-x86_64-linux-gnu-ubuntu-16.04.tar.xz"
  | .llvm12 => "llvmorg-12.0.1/clang+llvm-12.0.1-x86_64-linux-gnu-ubuntu-16.04.tar.xz"
  | .llvm13 => "llvmorg-13.0.1/clang+llvm-13.0.1-x86_64-linux-gnu-ubuntu-18.04.tar.xz"
  | .llvm14 => "llvmorg-14.0.6/clang+llvm-14.0.6-x86_64-linux-gnu-rhel-8.4.tar.xz"

def release (f : Feature) : Release := .ofParts releaseHost f.releasePath

def buildFeatures (f : Feature) : String := "build-llvm," ++ f.tag ++ "-no-llvm-linking"

/-- The archive that is put beside a build beforehand where nothing is downloaded. -/
def stagedArchive (f : Feature) : String := f.tag ++ ".zip"

def supported : String := ", ".intercalate (all.map tag)

def ofTag? (s : String) : Option Feature := all.find? (·.tag = Text.trim s)

theorem ofTag?_tag (f : Feature) : ofTag? f.tag = some f := by cases f <;> decide +kernel

end Feature
end Provision
