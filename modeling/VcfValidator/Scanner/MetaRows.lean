import VcfValidator.Scanner.Transitions

/-!
# Dispatch of the fileformat and meta-section states

The `case N:` blocks of `Parser::parse_buffer` for the states of the fileformat line (1 to 16),
of the meta lines (17 to 353) and of the meta skip state 621. Each row lists the leaves of the
block in source order, a `switch` case or an equality test as a one-byte range, and ends with the
block's final `goto`.
-/

namespace VcfValidator.Scanner

set_option autoImplicit false

def st1 : Row := ⟨[⟨35, 35, go 2⟩], tr0⟩

def st2 : Row := ⟨[⟨35, 35, go 3⟩], tr0⟩

def st3 : Row := ⟨[⟨102, 102, go 4⟩], tr0⟩

def st4 : Row := ⟨[⟨105, 105, go 5⟩], tr0⟩

def st5 : Row := ⟨[⟨108, 108, go 6⟩], tr0⟩

def st6 : Row := ⟨[⟨101, 101, go 7⟩], tr0⟩

def st7 : Row := ⟨[⟨102, 102, go 8⟩], tr0⟩

def st8 : Row := ⟨[⟨111, 111, go 9⟩], tr0⟩

def st9 : Row := ⟨[⟨114, 114, go 10⟩], tr0⟩

def st10 : Row := ⟨[⟨109, 109, go 11⟩], tr0⟩

def st11 : Row := ⟨[⟨97, 97, go 12⟩], tr0⟩

def st12 : Row := ⟨[⟨116, 116, go 13⟩], tr0⟩

def st13 : Row := ⟨[⟨61, 61, go 14⟩], tr0⟩

def st14 : Row := ⟨[⟨33, 126, tr15⟩], tr14⟩

def st15 : Row := ⟨[⟨10, 10, tr16⟩, ⟨33, 126, tr17⟩], tr14⟩

def st16 : Row := ⟨[⟨35, 35, go 17⟩], tr18⟩

def st17 : Row := ⟨[⟨35, 35, go 18⟩, ⟨67, 67, go 354⟩], tr20⟩

def st18 : Row :=
  ⟨[⟨65, 65, tr26⟩, ⟨70, 70, tr27⟩, ⟨73, 73, tr28⟩, ⟨80, 80, tr29⟩, ⟨83, 83, tr30⟩,
    ⟨95, 95, tr25⟩, ⟨97, 97, tr31⟩, ⟨99, 99, tr32⟩, ⟨112, 112, tr33⟩, ⟨32, 47, tr24⟩,
    ⟨58, 60, tr24⟩, ⟨48, 57, tr25⟩, ⟨66, 90, tr25⟩, ⟨123, 126, tr24⟩, ⟨98, 122, tr25⟩,
    ⟨91, 96, tr24⟩, ⟨62, 64, tr24⟩],
   tr23⟩

def st19 : Row := ⟨[⟨10, 10, tr35⟩, ⟨62, 126, tr36⟩, ⟨32, 60, tr36⟩], tr34⟩

def st20 : Row := ⟨[⟨35, 35, go 17⟩], tr20⟩

def st21 : Row :=
  ⟨[⟨10, 10, tr35⟩, ⟨61, 61, tr38⟩, ⟨95, 95, tr37⟩, ⟨32, 47, tr36⟩, ⟨58, 64, tr36⟩,
    ⟨48, 57, tr37⟩, ⟨91, 96, tr36⟩, ⟨123, 126, tr36⟩, ⟨97, 122, tr37⟩, ⟨65, 90, tr37⟩],
   tr34⟩

def st22 : Row := ⟨[⟨60, 60, go 25⟩, ⟨32, 126, go 23⟩], tr34⟩

def st23 : Row := ⟨[⟨32, 126, tr41⟩], tr34⟩

def st24 : Row := ⟨[⟨10, 10, tr35⟩, ⟨32, 126, tr42⟩], tr34⟩

def st25 : Row :=
  ⟨[⟨47, 47, go 26⟩, ⟨95, 95, tr44⟩, ⟨32, 44, go 26⟩, ⟨58, 59, go 26⟩, ⟨48, 57, tr45⟩,
    ⟨45, 46, tr44⟩, ⟨65, 90, tr45⟩, ⟨123, 126, go 26⟩, ⟨97, 122, tr45⟩, ⟨91, 96, go 26⟩,
    ⟨61, 64, go 26⟩],
   tr34⟩

def st26 : Row := ⟨[⟨32, 126, tr46⟩], tr34⟩

def st27 : Row := ⟨[⟨62, 62, tr48⟩, ⟨32, 126, tr47⟩], tr34⟩

def st28 : Row := ⟨[⟨10, 10, tr49⟩, ⟨62, 62, tr48⟩, ⟨32, 126, tr47⟩], tr34⟩

def st29 : Row :=
  ⟨[⟨47, 47, tr46⟩, ⟨95, 95, tr50⟩, ⟨32, 44, tr46⟩, ⟨48, 57, tr51⟩, ⟨45, 46, tr50⟩,
    ⟨65, 90, tr51⟩, ⟨123, 126, tr46⟩, ⟨97, 122, tr51⟩, ⟨91, 96, tr46⟩, ⟨58, 64, tr46⟩],
   tr34⟩

def st30 : Row :=
  ⟨[⟨47, 47, tr47⟩, ⟨62, 62, tr48⟩, ⟨95, 95, tr52⟩, ⟨32, 44, tr47⟩, ⟨48, 57, tr53⟩,
    ⟨45, 46, tr52⟩, ⟨65, 90, tr53⟩, ⟨123, 126, tr47⟩, ⟨97, 122, tr53⟩, ⟨91, 96, tr47⟩,
    ⟨58, 64, tr47⟩],
   tr34⟩

def st31 : Row :=
  ⟨[⟨47, 47, tr47⟩, ⟨61, 61, tr54⟩, ⟨62, 62, tr48⟩, ⟨95, 95, tr53⟩, ⟨32, 44, tr47⟩,
    ⟨58, 64, tr47⟩, ⟨45, 57, tr53⟩, ⟨91, 96, tr47⟩, ⟨123, 126, tr47⟩, ⟨97, 122, tr53⟩,
    ⟨65, 90, tr53⟩],
   tr34⟩

def st32 : Row :=
  ⟨[⟨34, 34, tr57⟩, ⟨44, 44, tr47⟩, ⟨62, 62, tr48⟩, ⟨32, 126, tr56⟩, ⟨9, 13, tr55⟩],
   tr34⟩

def st33 : Row :=
  ⟨[⟨44, 44, tr59⟩, ⟨62, 62, tr60⟩, ⟨32, 126, tr58⟩, ⟨9, 13, tr58⟩],
   tr34⟩

def st34 : Row :=
  ⟨[⟨95, 95, tr61⟩, ⟨45, 46, tr61⟩, ⟨97, 122, tr62⟩, ⟨65, 90, tr62⟩, ⟨48, 57, tr62⟩],
   tr34⟩

def st35 : Row :=
  ⟨[⟨95, 95, go 35⟩, ⟨45, 46, go 35⟩, ⟨97, 122, tr64⟩, ⟨65, 90, tr64⟩, ⟨48, 57, tr64⟩],
   tr34⟩

def st36 : Row :=
  ⟨[⟨61, 61, tr65⟩, ⟨95, 95, tr64⟩, ⟨45, 46, tr64⟩, ⟨97, 122, tr64⟩, ⟨65, 90, tr64⟩,
    ⟨48, 57, tr64⟩],
   tr34⟩

def st37 : Row :=
  ⟨[⟨34, 34, tr66⟩, ⟨9, 13, tr55⟩, ⟨63, 126, tr55⟩, ⟨45, 61, tr55⟩, ⟨32, 43, tr55⟩],
   tr34⟩

def st38 : Row :=
  ⟨[⟨34, 34, tr58⟩, ⟨44, 44, tr68⟩, ⟨62, 62, tr69⟩, ⟨32, 126, tr67⟩, ⟨9, 13, tr58⟩],
   tr34⟩

def st39 : Row :=
  ⟨[⟨34, 34, tr71⟩, ⟨44, 44, tr72⟩, ⟨62, 62, tr73⟩, ⟨32, 126, tr70⟩, ⟨9, 13, tr58⟩],
   tr34⟩

def st40 : Row :=
  ⟨[⟨34, 34, tr75⟩, ⟨47, 47, tr74⟩, ⟨95, 95, tr76⟩, ⟨32, 44, tr74⟩, ⟨48, 57, tr77⟩,
    ⟨45, 46, tr76⟩, ⟨65, 90, tr77⟩, ⟨123, 126, tr74⟩, ⟨97, 122, tr77⟩, ⟨91, 96, tr74⟩,
    ⟨58, 64, tr74⟩],
   tr34⟩

def st41 : Row := ⟨[⟨34, 34, tr75⟩, ⟨32, 126, tr74⟩], tr34⟩

def st42 : Row := ⟨[⟨44, 44, go 34⟩, ⟨62, 62, go 43⟩], tr34⟩

def st43 : Row := ⟨[⟨10, 10, tr49⟩], tr34⟩

def st44 : Row :=
  ⟨[⟨34, 34, tr75⟩, ⟨47, 47, tr74⟩, ⟨95, 95, tr80⟩, ⟨32, 44, tr74⟩, ⟨48, 57, tr81⟩,
    ⟨45, 46, tr80⟩, ⟨65, 90, tr81⟩, ⟨123, 126, tr74⟩, ⟨97, 122, tr81⟩, ⟨91, 96, tr74⟩,
    ⟨58, 64, tr74⟩],
   tr34⟩

def st45 : Row :=
  ⟨[⟨34, 34, tr75⟩, ⟨47, 47, tr74⟩, ⟨61, 61, tr82⟩, ⟨95, 95, tr81⟩, ⟨32, 44, tr74⟩,
    ⟨58, 64, tr74⟩, ⟨45, 57, tr81⟩, ⟨91, 96, tr74⟩, ⟨123, 126, tr74⟩, ⟨97, 122, tr81⟩,
    ⟨65, 90, tr81⟩],
   tr34⟩

def st46 : Row :=
  ⟨[⟨34, 34, tr84⟩, ⟨44, 44, tr74⟩, ⟨62, 62, tr74⟩, ⟨32, 126, tr83⟩, ⟨9, 13, tr55⟩],
   tr34⟩

def st47 : Row := ⟨[⟨10, 10, tr49⟩, ⟨34, 34, tr75⟩, ⟨32, 126, tr74⟩], tr34⟩

def st48 : Row :=
  ⟨[⟨44, 44, tr86⟩, ⟨62, 62, tr87⟩, ⟨32, 126, tr85⟩, ⟨9, 13, tr58⟩],
   tr34⟩

def st49 : Row :=
  ⟨[⟨47, 47, tr47⟩, ⟨62, 62, tr48⟩, ⟨95, 95, tr88⟩, ⟨32, 44, tr47⟩, ⟨48, 57, tr89⟩,
    ⟨45, 46, tr88⟩, ⟨65, 90, tr89⟩, ⟨123, 126, tr47⟩, ⟨97, 122, tr89⟩, ⟨91, 96, tr47⟩,
    ⟨58, 64, tr47⟩],
   tr34⟩

def st50 : Row :=
  ⟨[⟨47, 47, tr47⟩, ⟨62, 62, tr48⟩, ⟨95, 95, tr90⟩, ⟨32, 44, tr47⟩, ⟨48, 57, tr91⟩,
    ⟨45, 46, tr90⟩, ⟨65, 90, tr91⟩, ⟨123, 126, tr47⟩, ⟨97, 122, tr91⟩, ⟨91, 96, tr47⟩,
    ⟨58, 64, tr47⟩],
   tr34⟩

def st51 : Row :=
  ⟨[⟨47, 47, tr47⟩, ⟨61, 61, tr92⟩, ⟨62, 62, tr48⟩, ⟨95, 95, tr91⟩, ⟨32, 44, tr47⟩,
    ⟨58, 64, tr47⟩, ⟨45, 57, tr91⟩, ⟨91, 96, tr47⟩, ⟨123, 126, tr47⟩, ⟨97, 122, tr91⟩,
    ⟨65, 90, tr91⟩],
   tr34⟩

def st52 : Row :=
  ⟨[⟨34, 34, tr93⟩, ⟨44, 44, tr47⟩, ⟨62, 62, tr48⟩, ⟨32, 126, tr56⟩, ⟨9, 13, tr55⟩],
   tr34⟩

def st53 : Row :=
  ⟨[⟨34, 34, tr85⟩, ⟨44, 44, tr95⟩, ⟨62, 62, tr96⟩, ⟨32, 126, tr94⟩, ⟨9, 13, tr58⟩],
   tr34⟩

def st54 : Row :=
  ⟨[⟨34, 34, tr98⟩, ⟨44, 44, tr99⟩, ⟨62, 62, tr100⟩, ⟨32, 126, tr97⟩, ⟨9, 13, tr58⟩],
   tr34⟩

def st55 : Row :=
  ⟨[⟨34, 34, tr102⟩, ⟨47, 47, tr101⟩, ⟨62, 62, tr105⟩, ⟨95, 95, tr103⟩, ⟨32, 44, tr101⟩,
    ⟨48, 57, tr104⟩, ⟨45, 46, tr103⟩, ⟨65, 90, tr104⟩, ⟨123, 126, tr101⟩, ⟨97, 122, tr104⟩,
    ⟨91, 96, tr101⟩, ⟨58, 64, tr101⟩],
   tr34⟩

def st56 : Row := ⟨[⟨34, 34, tr102⟩, ⟨62, 62, tr105⟩, ⟨32, 126, tr101⟩], tr34⟩

def st57 : Row := ⟨[⟨44, 44, tr106⟩, ⟨62, 62, tr48⟩, ⟨32, 126, tr47⟩], tr34⟩

def st58 : Row :=
  ⟨[⟨10, 10, tr49⟩, ⟨34, 34, tr102⟩, ⟨62, 62, tr105⟩, ⟨32, 126, tr101⟩],
   tr34⟩

def st59 : Row :=
  ⟨[⟨34, 34, tr102⟩, ⟨47, 47, tr101⟩, ⟨62, 62, tr105⟩, ⟨95, 95, tr107⟩, ⟨32, 44, tr101⟩,
    ⟨48, 57, tr108⟩, ⟨45, 46, tr107⟩, ⟨65, 90, tr108⟩, ⟨123, 126, tr101⟩, ⟨97, 122, tr108⟩,
    ⟨91, 96, tr101⟩, ⟨58, 64, tr101⟩],
   tr34⟩

def st60 : Row :=
  ⟨[⟨34, 34, tr102⟩, ⟨47, 47, tr101⟩, ⟨61, 61, tr109⟩, ⟨62, 62, tr105⟩, ⟨95, 95, tr108⟩,
    ⟨32, 44, tr101⟩, ⟨58, 64, tr101⟩, ⟨45, 57, tr108⟩, ⟨91, 96, tr101⟩, ⟨123, 126, tr101⟩,
    ⟨97, 122, tr108⟩, ⟨65, 90, tr108⟩],
   tr34⟩

def st61 : Row :=
  ⟨[⟨34, 34, tr111⟩, ⟨44, 44, tr101⟩, ⟨62, 62, tr105⟩, ⟨32, 126, tr110⟩, ⟨9, 13, tr55⟩],
   tr34⟩

def st62 : Row :=
  ⟨[⟨34, 34, tr85⟩, ⟨44, 44, tr113⟩, ⟨62, 62, tr96⟩, ⟨32, 126, tr112⟩, ⟨9, 13, tr58⟩],
   tr34⟩

def st63 : Row :=
  ⟨[⟨34, 34, tr98⟩, ⟨44, 44, tr115⟩, ⟨62, 62, tr100⟩, ⟨32, 126, tr114⟩, ⟨9, 13, tr58⟩],
   tr34⟩

def st64 : Row :=
  ⟨[⟨34, 34, tr102⟩, ⟨47, 47, tr101⟩, ⟨62, 62, tr105⟩, ⟨95, 95, tr116⟩, ⟨32, 44, tr101⟩,
    ⟨48, 57, tr117⟩, ⟨45, 46, tr116⟩, ⟨65, 90, tr117⟩, ⟨123, 126, tr101⟩, ⟨97, 122, tr117⟩,
    ⟨91, 96, tr101⟩, ⟨58, 64, tr101⟩],
   tr34⟩

def st65 : Row :=
  ⟨[⟨34, 34, tr102⟩, ⟨47, 47, tr101⟩, ⟨62, 62, tr105⟩, ⟨95, 95, tr118⟩, ⟨32, 44, tr101⟩,
    ⟨48, 57, tr119⟩, ⟨45, 46, tr118⟩, ⟨65, 90, tr119⟩, ⟨123, 126, tr101⟩, ⟨97, 122, tr119⟩,
    ⟨91, 96, tr101⟩, ⟨58, 64, tr101⟩],
   tr34⟩

def st66 : Row :=
  ⟨[⟨34, 34, tr102⟩, ⟨47, 47, tr101⟩, ⟨61, 61, tr120⟩, ⟨62, 62, tr105⟩, ⟨95, 95, tr119⟩,
    ⟨32, 44, tr101⟩, ⟨58, 64, tr101⟩, ⟨45, 57, tr119⟩, ⟨91, 96, tr101⟩, ⟨123, 126, tr101⟩,
    ⟨97, 122, tr119⟩, ⟨65, 90, tr119⟩],
   tr34⟩

def st67 : Row :=
  ⟨[⟨34, 34, tr122⟩, ⟨44, 44, tr101⟩, ⟨62, 62, tr105⟩, ⟨32, 126, tr121⟩, ⟨9, 13, tr55⟩],
   tr34⟩

def st68 : Row :=
  ⟨[⟨34, 34, tr124⟩, ⟨44, 44, tr125⟩, ⟨62, 62, tr105⟩, ⟨32, 126, tr123⟩, ⟨9, 13, tr58⟩],
   tr34⟩

def st69 : Row :=
  ⟨[⟨47, 47, tr46⟩, ⟨61, 61, tr126⟩, ⟨95, 95, tr51⟩, ⟨32, 44, tr46⟩, ⟨58, 64, tr46⟩,
    ⟨45, 57, tr51⟩, ⟨91, 96, tr46⟩, ⟨123, 126, tr46⟩, ⟨97, 122, tr51⟩, ⟨65, 90, tr51⟩],
   tr34⟩

def st70 : Row :=
  ⟨[⟨10, 10, tr35⟩, ⟨61, 61, tr38⟩, ⟨76, 76, tr128⟩, ⟨95, 95, tr37⟩, ⟨32, 47, tr36⟩,
    ⟨58, 64, tr36⟩, ⟨48, 57, tr37⟩, ⟨91, 96, tr36⟩, ⟨123, 126, tr36⟩, ⟨97, 122, tr37⟩,
    ⟨65, 90, tr37⟩],
   tr127⟩

def st71 : Row :=
  ⟨[⟨10, 10, tr35⟩, ⟨61, 61, tr38⟩, ⟨84, 84, tr129⟩, ⟨95, 95, tr37⟩, ⟨32, 47, tr36⟩,
    ⟨58, 64, tr36⟩, ⟨48, 57, tr37⟩, ⟨91, 96, tr36⟩, ⟨123, 126, tr36⟩, ⟨97, 122, tr37⟩,
    ⟨65, 90, tr37⟩],
   tr127⟩

def st72 : Row :=
  ⟨[⟨10, 10, tr35⟩, ⟨61, 61, tr130⟩, ⟨95, 95, tr37⟩, ⟨32, 47, tr36⟩, ⟨58, 64, tr36⟩,
    ⟨48, 57, tr37⟩, ⟨91, 96, tr36⟩, ⟨123, 126, tr36⟩, ⟨97, 122, tr37⟩, ⟨65, 90, tr37⟩],
   tr127⟩

def st73 : Row := ⟨[⟨60, 60, go 74⟩], tr127⟩

def st74 : Row := ⟨[⟨73, 73, go 75⟩], tr127⟩

def st75 : Row := ⟨[⟨68, 68, go 76⟩], tr127⟩

def st76 : Row := ⟨[⟨61, 61, go 77⟩], tr127⟩

def st77 : Row :=
  ⟨[⟨58, 58, tr137⟩, ⟨95, 95, tr137⟩, ⟨48, 57, tr136⟩, ⟨97, 122, tr136⟩, ⟨65, 90, tr136⟩],
   tr135⟩

def st78 : Row :=
  ⟨[⟨44, 44, tr138⟩, ⟨95, 95, tr139⟩, ⟨48, 58, tr139⟩, ⟨97, 122, tr139⟩, ⟨65, 90, tr139⟩],
   tr135⟩

def st79 : Row := ⟨[⟨68, 68, go 80⟩], tr127⟩

def st80 : Row := ⟨[⟨101, 101, go 81⟩], tr127⟩

def st81 : Row := ⟨[⟨115, 115, go 82⟩], tr127⟩

def st82 : Row := ⟨[⟨99, 99, go 83⟩], tr127⟩

def st83 : Row := ⟨[⟨114, 114, go 84⟩], tr127⟩

def st84 : Row := ⟨[⟨105, 105, go 85⟩], tr127⟩

def st85 : Row := ⟨[⟨112, 112, go 86⟩], tr127⟩

def st86 : Row := ⟨[⟨116, 116, go 87⟩], tr127⟩

def st87 : Row := ⟨[⟨105, 105, go 88⟩], tr127⟩

def st88 : Row := ⟨[⟨111, 111, go 89⟩], tr127⟩

def st89 : Row := ⟨[⟨110, 110, go 90⟩], tr127⟩

def st90 : Row := ⟨[⟨61, 61, go 91⟩], tr127⟩

def st91 : Row := ⟨[⟨34, 34, tr152⟩], tr127⟩

def st92 : Row := ⟨[⟨35, 126, tr153⟩, ⟨32, 33, tr153⟩], tr127⟩

def st93 : Row := ⟨[⟨34, 34, tr156⟩, ⟨32, 126, tr155⟩], tr154⟩

def st94 : Row := ⟨[⟨44, 44, go 95⟩, ⟨62, 62, go 99⟩], tr154⟩

def st95 : Row :=
  ⟨[⟨95, 95, tr160⟩, ⟨45, 46, tr160⟩, ⟨97, 122, tr161⟩, ⟨65, 90, tr161⟩, ⟨48, 57, tr161⟩],
   tr159⟩

def st96 : Row :=
  ⟨[⟨95, 95, go 96⟩, ⟨45, 46, go 96⟩, ⟨97, 122, tr163⟩, ⟨65, 90, tr163⟩, ⟨48, 57, tr163⟩],
   tr159⟩

def st97 : Row :=
  ⟨[⟨61, 61, tr164⟩, ⟨95, 95, tr163⟩, ⟨45, 46, tr163⟩, ⟨97, 122, tr163⟩, ⟨65, 90, tr163⟩,
    ⟨48, 57, tr163⟩],
   tr159⟩

def st98 : Row := ⟨[⟨34, 34, go 92⟩], tr127⟩

def st99 : Row := ⟨[⟨10, 10, tr49⟩], tr127⟩

def st100 : Row :=
  ⟨[⟨58, 58, go 100⟩, ⟨95, 95, go 100⟩, ⟨48, 57, tr139⟩, ⟨97, 122, tr139⟩, ⟨65, 90, tr139⟩],
   tr135⟩

def st101 : Row :=
  ⟨[⟨10, 10, tr35⟩, ⟨61, 61, tr38⟩, ⟨73, 73, tr168⟩, ⟨79, 79, tr169⟩, ⟨95, 95, tr37⟩,
    ⟨32, 47, tr36⟩, ⟨58, 64, tr36⟩, ⟨48, 57, tr37⟩, ⟨91, 96, tr36⟩, ⟨123, 126, tr36⟩,
    ⟨97, 122, tr37⟩, ⟨65, 90, tr37⟩],
   tr167⟩

def st102 : Row :=
  ⟨[⟨10, 10, tr35⟩, ⟨61, 61, tr38⟩, ⟨76, 76, tr171⟩, ⟨95, 95, tr37⟩, ⟨32, 47, tr36⟩,
    ⟨58, 64, tr36⟩, ⟨48, 57, tr37⟩, ⟨91, 96, tr36⟩, ⟨123, 126, tr36⟩, ⟨97, 122, tr37⟩,
    ⟨65, 90, tr37⟩],
   tr170⟩

def st103 : Row :=
  ⟨[⟨10, 10, tr35⟩, ⟨61, 61, tr38⟩, ⟨84, 84, tr172⟩, ⟨95, 95, tr37⟩, ⟨32, 47, tr36⟩,
    ⟨58, 64, tr36⟩, ⟨48, 57, tr37⟩, ⟨91, 96, tr36⟩, ⟨123, 126, tr36⟩, ⟨97, 122, tr37⟩,
    ⟨65, 90, tr37⟩],
   tr170⟩

def st104 : Row :=
  ⟨[⟨10, 10, tr35⟩, ⟨61, 61, tr38⟩, ⟨69, 69, tr173⟩, ⟨95, 95, tr37⟩, ⟨32, 47, tr36⟩,
    ⟨58, 64, tr36⟩, ⟨48, 57, tr37⟩, ⟨91, 96, tr36⟩, ⟨123, 126, tr36⟩, ⟨97, 122, tr37⟩,
    ⟨65, 90, tr37⟩],
   tr170⟩

def st105 : Row :=
  ⟨[⟨10, 10, tr35⟩, ⟨61, 61, tr38⟩, ⟨82, 82, tr174⟩, ⟨95, 95, tr37⟩, ⟨32, 47, tr36⟩,
    ⟨58, 64, tr36⟩, ⟨48, 57, tr37⟩, ⟨91, 96, tr36⟩, ⟨123, 126, tr36⟩, ⟨97, 122, tr37⟩,
    ⟨65, 90, tr37⟩],
   tr170⟩

def st106 : Row :=
  ⟨[⟨10, 10, tr35⟩, ⟨61, 61, tr175⟩, ⟨95, 95, tr37⟩, ⟨32, 47, tr36⟩, ⟨58, 64, tr36⟩,
    ⟨48, 57, tr37⟩, ⟨91, 96, tr36⟩, ⟨123, 126, tr36⟩, ⟨97, 122, tr37⟩, ⟨65, 90, tr37⟩],
   tr170⟩

def st107 : Row := ⟨[⟨60, 60, go 108⟩], tr170⟩

def st108 : Row := ⟨[⟨73, 73, go 109⟩], tr170⟩

def st109 : Row := ⟨[⟨68, 68, go 110⟩], tr170⟩

def st110 : Row := ⟨[⟨61, 61, go 111⟩], tr170⟩

def st111 : Row :=
  ⟨[⟨95, 95, tr181⟩, ⟨45, 46, tr181⟩, ⟨97, 122, tr182⟩, ⟨65, 90, tr182⟩, ⟨48, 57, tr182⟩],
   tr180⟩

def st112 : Row :=
  ⟨[⟨95, 95, go 112⟩, ⟨45, 46, go 112⟩, ⟨97, 122, tr184⟩, ⟨65, 90, tr184⟩, ⟨48, 57, tr184⟩],
   tr180⟩

def st113 : Row :=
  ⟨[⟨44, 44, tr185⟩, ⟨95, 95, tr184⟩, ⟨45, 46, tr184⟩, ⟨97, 122, tr184⟩, ⟨65, 90, tr184⟩,
    ⟨48, 57, tr184⟩],
   tr180⟩

def st114 : Row := ⟨[⟨68, 68, go 115⟩], tr170⟩

def st115 : Row := ⟨[⟨101, 101, go 116⟩], tr170⟩

def st116 : Row := ⟨[⟨115, 115, go 117⟩], tr170⟩

def st117 : Row := ⟨[⟨99, 99, go 118⟩], tr170⟩

def st118 : Row := ⟨[⟨114, 114, go 119⟩], tr170⟩

def st119 : Row := ⟨[⟨105, 105, go 120⟩], tr170⟩

def st120 : Row := ⟨[⟨112, 112, go 121⟩], tr170⟩

def st121 : Row := ⟨[⟨116, 116, go 122⟩], tr170⟩

def st122 : Row := ⟨[⟨105, 105, go 123⟩], tr170⟩

def st123 : Row := ⟨[⟨111, 111, go 124⟩], tr170⟩

def st124 : Row := ⟨[⟨110, 110, go 125⟩], tr170⟩

def st125 : Row := ⟨[⟨61, 61, go 126⟩], tr170⟩

def st126 : Row := ⟨[⟨34, 34, tr198⟩], tr170⟩

def st127 : Row := ⟨[⟨35, 126, tr199⟩, ⟨32, 33, tr199⟩], tr170⟩

def st128 : Row := ⟨[⟨34, 34, tr202⟩, ⟨32, 126, tr201⟩], tr200⟩

def st129 : Row := ⟨[⟨44, 44, go 130⟩, ⟨62, 62, go 134⟩], tr200⟩

def st130 : Row :=
  ⟨[⟨95, 95, tr205⟩, ⟨45, 46, tr205⟩, ⟨97, 122, tr206⟩, ⟨65, 90, tr206⟩, ⟨48, 57, tr206⟩],
   tr180⟩

def st131 : Row :=
  ⟨[⟨95, 95, go 131⟩, ⟨45, 46, go 131⟩, ⟨97, 122, tr208⟩, ⟨65, 90, tr208⟩, ⟨48, 57, tr208⟩],
   tr180⟩

def st132 : Row :=
  ⟨[⟨61, 61, tr209⟩, ⟨95, 95, tr208⟩, ⟨45, 46, tr208⟩, ⟨97, 122, tr208⟩, ⟨65, 90, tr208⟩,
    ⟨48, 57, tr208⟩],
   tr180⟩

def st133 : Row := ⟨[⟨34, 34, go 127⟩], tr170⟩

def st134 : Row := ⟨[⟨10, 10, tr49⟩], tr170⟩

def st135 : Row :=
  ⟨[⟨10, 10, tr35⟩, ⟨61, 61, tr38⟩, ⟨82, 82, tr212⟩, ⟨95, 95, tr37⟩, ⟨32, 47, tr36⟩,
    ⟨58, 64, tr36⟩, ⟨48, 57, tr37⟩, ⟨91, 96, tr36⟩, ⟨123, 126, tr36⟩, ⟨97, 122, tr37⟩,
    ⟨65, 90, tr37⟩],
   tr211⟩

def st136 : Row :=
  ⟨[⟨10, 10, tr35⟩, ⟨61, 61, tr38⟩, ⟨77, 77, tr213⟩, ⟨95, 95, tr37⟩, ⟨32, 47, tr36⟩,
    ⟨58, 64, tr36⟩, ⟨48, 57, tr37⟩, ⟨91, 96, tr36⟩, ⟨123, 126, tr36⟩, ⟨97, 122, tr37⟩,
    ⟨65, 90, tr37⟩],
   tr211⟩

def st137 : Row :=
  ⟨[⟨10, 10, tr35⟩, ⟨61, 61, tr38⟩, ⟨65, 65, tr214⟩, ⟨95, 95, tr37⟩, ⟨32, 47, tr36⟩,
    ⟨58, 64, tr36⟩, ⟨48, 57, tr37⟩, ⟨91, 96, tr36⟩, ⟨123, 126, tr36⟩, ⟨97, 122, tr37⟩,
    ⟨66, 90, tr37⟩],
   tr211⟩

def st138 : Row :=
  ⟨[⟨10, 10, tr35⟩, ⟨61, 61, tr38⟩, ⟨84, 84, tr215⟩, ⟨95, 95, tr37⟩, ⟨32, 47, tr36⟩,
    ⟨58, 64, tr36⟩, ⟨48, 57, tr37⟩, ⟨91, 96, tr36⟩, ⟨123, 126, tr36⟩, ⟨97, 122, tr37⟩,
    ⟨65, 90, tr37⟩],
   tr211⟩

def st139 : Row :=
  ⟨[⟨10, 10, tr35⟩, ⟨61, 61, tr216⟩, ⟨95, 95, tr37⟩, ⟨32, 47, tr36⟩, ⟨58, 64, tr36⟩,
    ⟨48, 57, tr37⟩, ⟨91, 96, tr36⟩, ⟨123, 126, tr36⟩, ⟨97, 122, tr37⟩, ⟨65, 90, tr37⟩],
   tr211⟩

def st140 : Row := ⟨[⟨60, 60, go 141⟩], tr211⟩

def st141 : Row := ⟨[⟨73, 73, go 142⟩], tr211⟩

def st142 : Row := ⟨[⟨68, 68, go 143⟩], tr211⟩

def st143 : Row := ⟨[⟨61, 61, go 144⟩], tr211⟩

def st144 : Row :=
  ⟨[⟨95, 95, tr222⟩, ⟨45, 46, tr222⟩, ⟨97, 122, tr223⟩, ⟨65, 90, tr223⟩, ⟨48, 57, tr223⟩],
   tr221⟩

def st145 : Row :=
  ⟨[⟨95, 95, go 145⟩, ⟨45, 46, go 145⟩, ⟨97, 122, tr225⟩, ⟨65, 90, tr225⟩, ⟨48, 57, tr225⟩],
   tr221⟩

def st146 : Row :=
  ⟨[⟨44, 44, tr226⟩, ⟨95, 95, tr225⟩, ⟨45, 46, tr225⟩, ⟨97, 122, tr225⟩, ⟨65, 90, tr225⟩,
    ⟨48, 57, tr225⟩],
   tr221⟩

def st147 : Row := ⟨[⟨78, 78, go 148⟩], tr211⟩

def st148 : Row := ⟨[⟨117, 117, go 149⟩], tr211⟩

def st149 : Row := ⟨[⟨109, 109, go 150⟩], tr211⟩

def st150 : Row := ⟨[⟨98, 98, go 151⟩], tr211⟩

def st151 : Row := ⟨[⟨101, 101, go 152⟩], tr211⟩

def st152 : Row := ⟨[⟨114, 114, go 153⟩], tr211⟩

def st153 : Row := ⟨[⟨61, 61, go 154⟩], tr211⟩

def st154 : Row :=
  ⟨[⟨46, 46, tr235⟩, ⟨65, 65, tr235⟩, ⟨71, 71, tr235⟩, ⟨82, 82, tr235⟩, ⟨48, 57, tr236⟩],
   tr234⟩

def st155 : Row := ⟨[⟨44, 44, tr237⟩], tr234⟩

def st156 : Row := ⟨[⟨84, 84, go 157⟩], tr211⟩

def st157 : Row := ⟨[⟨121, 121, go 158⟩], tr211⟩

def st158 : Row := ⟨[⟨112, 112, go 159⟩], tr211⟩

def st159 : Row := ⟨[⟨101, 101, go 160⟩], tr211⟩

def st160 : Row := ⟨[⟨61, 61, go 161⟩], tr211⟩

def st161 : Row := ⟨[⟨97, 122, tr244⟩, ⟨65, 90, tr244⟩], tr243⟩

def st162 : Row := ⟨[⟨44, 44, tr245⟩, ⟨97, 122, tr246⟩, ⟨65, 90, tr246⟩], tr243⟩

def st163 : Row := ⟨[⟨68, 68, go 164⟩], tr211⟩

def st164 : Row := ⟨[⟨101, 101, go 165⟩], tr211⟩

def st165 : Row := ⟨[⟨115, 115, go 166⟩], tr211⟩

def st166 : Row := ⟨[⟨99, 99, go 167⟩], tr211⟩

def st167 : Row := ⟨[⟨114, 114, go 168⟩], tr211⟩

def st168 : Row := ⟨[⟨105, 105, go 169⟩], tr211⟩

def st169 : Row := ⟨[⟨112, 112, go 170⟩], tr211⟩

def st170 : Row := ⟨[⟨116, 116, go 171⟩], tr211⟩

def st171 : Row := ⟨[⟨105, 105, go 172⟩], tr211⟩

def st172 : Row := ⟨[⟨111, 111, go 173⟩], tr211⟩

def st173 : Row := ⟨[⟨110, 110, go 174⟩], tr211⟩

def st174 : Row := ⟨[⟨61, 61, go 175⟩], tr211⟩

def st175 : Row := ⟨[⟨34, 34, tr259⟩], tr211⟩

def st176 : Row := ⟨[⟨35, 126, tr260⟩, ⟨32, 33, tr260⟩], tr211⟩

def st177 : Row := ⟨[⟨34, 34, tr263⟩, ⟨32, 126, tr262⟩], tr261⟩

def st178 : Row := ⟨[⟨44, 44, go 179⟩, ⟨62, 62, go 183⟩], tr261⟩

def st179 : Row :=
  ⟨[⟨95, 95, tr266⟩, ⟨45, 46, tr266⟩, ⟨97, 122, tr267⟩, ⟨65, 90, tr267⟩, ⟨48, 57, tr267⟩],
   tr221⟩

def st180 : Row :=
  ⟨[⟨95, 95, go 180⟩, ⟨45, 46, go 180⟩, ⟨97, 122, tr269⟩, ⟨65, 90, tr269⟩, ⟨48, 57, tr269⟩],
   tr221⟩

def st181 : Row :=
  ⟨[⟨61, 61, tr270⟩, ⟨95, 95, tr269⟩, ⟨45, 46, tr269⟩, ⟨97, 122, tr269⟩, ⟨65, 90, tr269⟩,
    ⟨48, 57, tr269⟩],
   tr221⟩

def st182 : Row := ⟨[⟨34, 34, go 176⟩], tr211⟩

def st183 : Row := ⟨[⟨10, 10, tr49⟩], tr211⟩

def st184 : Row := ⟨[⟨44, 44, tr237⟩, ⟨48, 57, tr272⟩], tr234⟩

def st185 : Row :=
  ⟨[⟨10, 10, tr35⟩, ⟨61, 61, tr38⟩, ⟨78, 78, tr274⟩, ⟨95, 95, tr37⟩, ⟨32, 47, tr36⟩,
    ⟨58, 64, tr36⟩, ⟨48, 57, tr37⟩, ⟨91, 96, tr36⟩, ⟨123, 126, tr36⟩, ⟨97, 122, tr37⟩,
    ⟨65, 90, tr37⟩],
   tr273⟩

def st186 : Row :=
  ⟨[⟨10, 10, tr35⟩, ⟨61, 61, tr38⟩, ⟨70, 70, tr275⟩, ⟨95, 95, tr37⟩, ⟨32, 47, tr36⟩,
    ⟨58, 64, tr36⟩, ⟨48, 57, tr37⟩, ⟨91, 96, tr36⟩, ⟨123, 126, tr36⟩, ⟨97, 122, tr37⟩,
    ⟨65, 90, tr37⟩],
   tr273⟩

def st187 : Row :=
  ⟨[⟨10, 10, tr35⟩, ⟨61, 61, tr38⟩, ⟨79, 79, tr276⟩, ⟨95, 95, tr37⟩, ⟨32, 47, tr36⟩,
    ⟨58, 64, tr36⟩, ⟨48, 57, tr37⟩, ⟨91, 96, tr36⟩, ⟨123, 126, tr36⟩, ⟨97, 122, tr37⟩,
    ⟨65, 90, tr37⟩],
   tr273⟩

def st188 : Row :=
  ⟨[⟨10, 10, tr35⟩, ⟨61, 61, tr277⟩, ⟨95, 95, tr37⟩, ⟨32, 47, tr36⟩, ⟨58, 64, tr36⟩,
    ⟨48, 57, tr37⟩, ⟨91, 96, tr36⟩, ⟨123, 126, tr36⟩, ⟨97, 122, tr37⟩, ⟨65, 90, tr37⟩],
   tr273⟩

def st189 : Row := ⟨[⟨60, 60, go 190⟩], tr273⟩

def st190 : Row := ⟨[⟨73, 73, go 191⟩], tr273⟩

def st191 : Row := ⟨[⟨68, 68, go 192⟩], tr273⟩

def st192 : Row := ⟨[⟨61, 61, go 193⟩], tr273⟩

def st193 : Row :=
  ⟨[⟨95, 95, tr283⟩, ⟨45, 46, tr283⟩, ⟨97, 122, tr284⟩, ⟨65, 90, tr284⟩, ⟨48, 57, tr284⟩],
   tr282⟩

def st194 : Row :=
  ⟨[⟨95, 95, go 194⟩, ⟨45, 46, go 194⟩, ⟨97, 122, tr286⟩, ⟨65, 90, tr286⟩, ⟨48, 57, tr286⟩],
   tr282⟩

def st195 : Row :=
  ⟨[⟨44, 44, tr287⟩, ⟨95, 95, tr286⟩, ⟨45, 46, tr286⟩, ⟨97, 122, tr286⟩, ⟨65, 90, tr286⟩,
    ⟨48, 57, tr286⟩],
   tr282⟩

def st196 : Row := ⟨[⟨78, 78, go 197⟩], tr273⟩

def st197 : Row := ⟨[⟨117, 117, go 198⟩], tr273⟩

def st198 : Row := ⟨[⟨109, 109, go 199⟩], tr273⟩

def st199 : Row := ⟨[⟨98, 98, go 200⟩], tr273⟩

def st200 : Row := ⟨[⟨101, 101, go 201⟩], tr273⟩

def st201 : Row := ⟨[⟨114, 114, go 202⟩], tr273⟩

def st202 : Row := ⟨[⟨61, 61, go 203⟩], tr273⟩

def st203 : Row :=
  ⟨[⟨46, 46, tr296⟩, ⟨65, 65, tr296⟩, ⟨71, 71, tr296⟩, ⟨82, 82, tr296⟩, ⟨48, 57, tr297⟩],
   tr295⟩

def st204 : Row := ⟨[⟨44, 44, tr298⟩], tr295⟩

def st205 : Row := ⟨[⟨84, 84, go 206⟩], tr273⟩

def st206 : Row := ⟨[⟨121, 121, go 207⟩], tr273⟩

def st207 : Row := ⟨[⟨112, 112, go 208⟩], tr273⟩

def st208 : Row := ⟨[⟨101, 101, go 209⟩], tr273⟩

def st209 : Row := ⟨[⟨61, 61, go 210⟩], tr273⟩

def st210 : Row := ⟨[⟨97, 122, tr305⟩, ⟨65, 90, tr305⟩], tr304⟩

def st211 : Row := ⟨[⟨44, 44, tr306⟩, ⟨97, 122, tr307⟩, ⟨65, 90, tr307⟩], tr304⟩

def st212 : Row := ⟨[⟨68, 68, go 213⟩], tr273⟩

def st213 : Row := ⟨[⟨101, 101, go 214⟩], tr273⟩

def st214 : Row := ⟨[⟨115, 115, go 215⟩], tr273⟩

def st215 : Row := ⟨[⟨99, 99, go 216⟩], tr273⟩

def st216 : Row := ⟨[⟨114, 114, go 217⟩], tr273⟩

def st217 : Row := ⟨[⟨105, 105, go 218⟩], tr273⟩

def st218 : Row := ⟨[⟨112, 112, go 219⟩], tr273⟩

def st219 : Row := ⟨[⟨116, 116, go 220⟩], tr273⟩

def st220 : Row := ⟨[⟨105, 105, go 221⟩], tr273⟩

def st221 : Row := ⟨[⟨111, 111, go 222⟩], tr273⟩

def st222 : Row := ⟨[⟨110, 110, go 223⟩], tr273⟩

def st223 : Row := ⟨[⟨61, 61, go 224⟩], tr273⟩

def st224 : Row := ⟨[⟨34, 34, tr320⟩], tr273⟩

def st225 : Row := ⟨[⟨35, 126, tr321⟩, ⟨32, 33, tr321⟩], tr273⟩

def st226 : Row := ⟨[⟨34, 34, tr324⟩, ⟨32, 126, tr323⟩], tr322⟩

def st227 : Row := ⟨[⟨44, 44, go 228⟩, ⟨62, 62, go 232⟩], tr322⟩

def st228 : Row :=
  ⟨[⟨95, 95, tr327⟩, ⟨45, 46, tr327⟩, ⟨97, 122, tr328⟩, ⟨65, 90, tr328⟩, ⟨48, 57, tr328⟩],
   tr282⟩

def st229 : Row :=
  ⟨[⟨95, 95, go 229⟩, ⟨45, 46, go 229⟩, ⟨97, 122, tr330⟩, ⟨65, 90, tr330⟩, ⟨48, 57, tr330⟩],
   tr282⟩

def st230 : Row :=
  ⟨[⟨61, 61, tr331⟩, ⟨95, 95, tr330⟩, ⟨45, 46, tr330⟩, ⟨97, 122, tr330⟩, ⟨65, 90, tr330⟩,
    ⟨48, 57, tr330⟩],
   tr282⟩

def st231 : Row := ⟨[⟨34, 34, go 225⟩], tr273⟩

def st232 : Row := ⟨[⟨10, 10, tr49⟩], tr273⟩

def st233 : Row := ⟨[⟨44, 44, tr298⟩, ⟨48, 57, tr333⟩], tr295⟩

def st234 : Row :=
  ⟨[⟨10, 10, tr35⟩, ⟨61, 61, tr38⟩, ⟨69, 69, tr335⟩, ⟨95, 95, tr37⟩, ⟨32, 47, tr36⟩,
    ⟨58, 64, tr36⟩, ⟨48, 57, tr37⟩, ⟨91, 96, tr36⟩, ⟨123, 126, tr36⟩, ⟨97, 122, tr37⟩,
    ⟨65, 90, tr37⟩],
   tr334⟩

def st235 : Row :=
  ⟨[⟨10, 10, tr35⟩, ⟨61, 61, tr38⟩, ⟨68, 68, tr336⟩, ⟨95, 95, tr37⟩, ⟨32, 47, tr36⟩,
    ⟨58, 64, tr36⟩, ⟨48, 57, tr37⟩, ⟨91, 96, tr36⟩, ⟨123, 126, tr36⟩, ⟨97, 122, tr37⟩,
    ⟨65, 90, tr37⟩],
   tr334⟩

def st236 : Row :=
  ⟨[⟨10, 10, tr35⟩, ⟨61, 61, tr38⟩, ⟨73, 73, tr337⟩, ⟨95, 95, tr37⟩, ⟨32, 47, tr36⟩,
    ⟨58, 64, tr36⟩, ⟨48, 57, tr37⟩, ⟨91, 96, tr36⟩, ⟨123, 126, tr36⟩, ⟨97, 122, tr37⟩,
    ⟨65, 90, tr37⟩],
   tr334⟩

def st237 : Row :=
  ⟨[⟨10, 10, tr35⟩, ⟨61, 61, tr38⟩, ⟨71, 71, tr338⟩, ⟨95, 95, tr37⟩, ⟨32, 47, tr36⟩,
    ⟨58, 64, tr36⟩, ⟨48, 57, tr37⟩, ⟨91, 96, tr36⟩, ⟨123, 126, tr36⟩, ⟨97, 122, tr37⟩,
    ⟨65, 90, tr37⟩],
   tr334⟩

def st238 : Row :=
  ⟨[⟨10, 10, tr35⟩, ⟨61, 61, tr38⟩, ⟨82, 82, tr339⟩, ⟨95, 95, tr37⟩, ⟨32, 47, tr36⟩,
    ⟨58, 64, tr36⟩, ⟨48, 57, tr37⟩, ⟨91, 96, tr36⟩, ⟨123, 126, tr36⟩, ⟨97, 122, tr37⟩,
    ⟨65, 90, tr37⟩],
   tr334⟩

def st239 : Row :=
  ⟨[⟨10, 10, tr35⟩, ⟨61, 61, tr38⟩, ⟨69, 69, tr340⟩, ⟨95, 95, tr37⟩, ⟨32, 47, tr36⟩,
    ⟨58, 64, tr36⟩, ⟨48, 57, tr37⟩, ⟨91, 96, tr36⟩, ⟨123, 126, tr36⟩, ⟨97, 122, tr37⟩,
    ⟨65, 90, tr37⟩],
   tr334⟩

def st240 : Row :=
  ⟨[⟨10, 10, tr35⟩, ⟨61, 61, tr38⟩, ⟨69, 69, tr341⟩, ⟨95, 95, tr37⟩, ⟨32, 47, tr36⟩,
    ⟨58, 64, tr36⟩, ⟨48, 57, tr37⟩, ⟨91, 96, tr36⟩, ⟨123, 126, tr36⟩, ⟨97, 122, tr37⟩,
    ⟨65, 90, tr37⟩],
   tr334⟩

def st241 : Row :=
  ⟨[⟨10, 10, tr35⟩, ⟨61, 61, tr342⟩, ⟨95, 95, tr37⟩, ⟨32, 47, tr36⟩, ⟨58, 64, tr36⟩,
    ⟨48, 57, tr37⟩, ⟨91, 96, tr36⟩, ⟨123, 126, tr36⟩, ⟨97, 122, tr37⟩, ⟨65, 90, tr37⟩],
   tr334⟩

def st242 : Row := ⟨[⟨60, 60, go 243⟩], tr334⟩

def st243 : Row :=
  ⟨[⟨95, 95, tr345⟩, ⟨45, 46, tr345⟩, ⟨97, 122, tr346⟩, ⟨65, 90, tr346⟩, ⟨48, 57, tr346⟩],
   tr344⟩

def st244 : Row :=
  ⟨[⟨95, 95, go 244⟩, ⟨45, 46, go 244⟩, ⟨97, 122, tr348⟩, ⟨65, 90, tr348⟩, ⟨48, 57, tr348⟩],
   tr344⟩

def st245 : Row :=
  ⟨[⟨61, 61, tr349⟩, ⟨95, 95, tr348⟩, ⟨45, 46, tr348⟩, ⟨97, 122, tr348⟩, ⟨65, 90, tr348⟩,
    ⟨48, 57, tr348⟩],
   tr344⟩

def st246 : Row :=
  ⟨[⟨95, 95, tr350⟩, ⟨45, 46, tr350⟩, ⟨97, 122, tr351⟩, ⟨65, 90, tr351⟩, ⟨48, 57, tr351⟩],
   tr344⟩

def st247 : Row :=
  ⟨[⟨95, 95, go 247⟩, ⟨45, 46, go 247⟩, ⟨97, 122, tr353⟩, ⟨65, 90, tr353⟩, ⟨48, 57, tr353⟩],
   tr344⟩

def st248 : Row :=
  ⟨[⟨44, 44, tr354⟩, ⟨62, 62, tr355⟩, ⟨95, 95, tr353⟩, ⟨45, 46, tr353⟩, ⟨97, 122, tr353⟩,
    ⟨65, 90, tr353⟩, ⟨48, 57, tr353⟩],
   tr344⟩

def st249 : Row := ⟨[⟨10, 10, tr49⟩], tr334⟩

def st250 : Row :=
  ⟨[⟨10, 10, tr35⟩, ⟨61, 61, tr38⟩, ⟨65, 65, tr357⟩, ⟨95, 95, tr37⟩, ⟨32, 47, tr36⟩,
    ⟨58, 64, tr36⟩, ⟨48, 57, tr37⟩, ⟨91, 96, tr36⟩, ⟨123, 126, tr36⟩, ⟨97, 122, tr37⟩,
    ⟨66, 90, tr37⟩],
   tr356⟩

def st251 : Row :=
  ⟨[⟨10, 10, tr35⟩, ⟨61, 61, tr38⟩, ⟨77, 77, tr358⟩, ⟨95, 95, tr37⟩, ⟨32, 47, tr36⟩,
    ⟨58, 64, tr36⟩, ⟨48, 57, tr37⟩, ⟨91, 96, tr36⟩, ⟨123, 126, tr36⟩, ⟨97, 122, tr37⟩,
    ⟨65, 90, tr37⟩],
   tr356⟩

def st252 : Row :=
  ⟨[⟨10, 10, tr35⟩, ⟨61, 61, tr38⟩, ⟨80, 80, tr359⟩, ⟨95, 95, tr37⟩, ⟨32, 47, tr36⟩,
    ⟨58, 64, tr36⟩, ⟨48, 57, tr37⟩, ⟨91, 96, tr36⟩, ⟨123, 126, tr36⟩, ⟨97, 122, tr37⟩,
    ⟨65, 90, tr37⟩],
   tr356⟩

def st253 : Row :=
  ⟨[⟨10, 10, tr35⟩, ⟨61, 61, tr38⟩, ⟨76, 76, tr360⟩, ⟨95, 95, tr37⟩, ⟨32, 47, tr36⟩,
    ⟨58, 64, tr36⟩, ⟨48, 57, tr37⟩, ⟨91, 96, tr36⟩, ⟨123, 126, tr36⟩, ⟨97, 122, tr37⟩,
    ⟨65, 90, tr37⟩],
   tr356⟩

def st254 : Row :=
  ⟨[⟨10, 10, tr35⟩, ⟨61, 61, tr38⟩, ⟨69, 69, tr361⟩, ⟨95, 95, tr37⟩, ⟨32, 47, tr36⟩,
    ⟨58, 64, tr36⟩, ⟨48, 57, tr37⟩, ⟨91, 96, tr36⟩, ⟨123, 126, tr36⟩, ⟨97, 122, tr37⟩,
    ⟨65, 90, tr37⟩],
   tr356⟩

def st255 : Row :=
  ⟨[⟨10, 10, tr35⟩, ⟨61, 61, tr362⟩, ⟨95, 95, tr37⟩, ⟨32, 47, tr36⟩, ⟨58, 64, tr36⟩,
    ⟨48, 57, tr37⟩, ⟨91, 96, tr36⟩, ⟨123, 126, tr36⟩, ⟨97, 122, tr37⟩, ⟨65, 90, tr37⟩],
   tr356⟩

def st256 : Row := ⟨[⟨60, 60, go 257⟩], tr356⟩

def st257 : Row := ⟨[⟨73, 73, go 258⟩], tr356⟩

def st258 : Row := ⟨[⟨68, 68, go 259⟩], tr356⟩

def st259 : Row := ⟨[⟨61, 61, go 260⟩], tr356⟩

def st260 : Row :=
  ⟨[⟨95, 95, tr368⟩, ⟨45, 46, tr368⟩, ⟨97, 122, tr369⟩, ⟨65, 90, tr369⟩, ⟨48, 57, tr369⟩],
   tr367⟩

def st261 : Row :=
  ⟨[⟨95, 95, go 261⟩, ⟨45, 46, go 261⟩, ⟨97, 122, tr371⟩, ⟨65, 90, tr371⟩, ⟨48, 57, tr371⟩],
   tr367⟩

def st262 : Row :=
  ⟨[⟨44, 44, tr373⟩, ⟨95, 95, tr371⟩, ⟨45, 46, tr371⟩, ⟨97, 122, tr371⟩, ⟨65, 90, tr371⟩,
    ⟨48, 57, tr371⟩],
   tr372⟩

def st263 : Row := ⟨[⟨71, 71, go 264⟩], tr374⟩

def st264 : Row := ⟨[⟨101, 101, go 265⟩], tr374⟩

def st265 : Row := ⟨[⟨110, 110, go 266⟩], tr374⟩

def st266 : Row := ⟨[⟨111, 111, go 267⟩], tr374⟩

def st267 : Row := ⟨[⟨109, 109, go 268⟩], tr374⟩

def st268 : Row := ⟨[⟨101, 101, go 269⟩], tr374⟩

def st269 : Row := ⟨[⟨115, 115, go 270⟩], tr374⟩

def st270 : Row := ⟨[⟨61, 61, go 271⟩], tr374⟩

def st271 : Row :=
  ⟨[⟨9, 13, tr383⟩, ⟨63, 126, tr383⟩, ⟨45, 61, tr383⟩, ⟨32, 43, tr383⟩],
   tr374⟩

def st272 : Row :=
  ⟨[⟨44, 44, tr386⟩, ⟨9, 13, tr385⟩, ⟨63, 126, tr385⟩, ⟨32, 61, tr385⟩],
   tr384⟩

def st273 : Row := ⟨[⟨77, 77, go 274⟩], tr387⟩

def st274 : Row := ⟨[⟨105, 105, go 275⟩], tr387⟩

def st275 : Row := ⟨[⟨120, 120, go 276⟩], tr387⟩

def st276 : Row := ⟨[⟨116, 116, go 277⟩], tr387⟩

def st277 : Row := ⟨[⟨117, 117, go 278⟩], tr387⟩

def st278 : Row := ⟨[⟨114, 114, go 279⟩], tr387⟩

def st279 : Row := ⟨[⟨101, 101, go 280⟩], tr387⟩

def st280 : Row := ⟨[⟨61, 61, go 281⟩], tr387⟩

def st281 : Row :=
  ⟨[⟨9, 13, tr396⟩, ⟨63, 126, tr396⟩, ⟨45, 61, tr396⟩, ⟨32, 43, tr396⟩],
   tr387⟩

def st282 : Row :=
  ⟨[⟨44, 44, tr399⟩, ⟨9, 13, tr398⟩, ⟨63, 126, tr398⟩, ⟨32, 61, tr398⟩],
   tr397⟩

def st283 : Row := ⟨[⟨68, 68, go 284⟩], tr400⟩

def st284 : Row := ⟨[⟨101, 101, go 285⟩], tr400⟩

def st285 : Row := ⟨[⟨115, 115, go 286⟩], tr400⟩

def st286 : Row := ⟨[⟨99, 99, go 287⟩], tr400⟩

def st287 : Row := ⟨[⟨114, 114, go 288⟩], tr400⟩

def st288 : Row := ⟨[⟨105, 105, go 289⟩], tr400⟩

def st289 : Row := ⟨[⟨112, 112, go 290⟩], tr400⟩

def st290 : Row := ⟨[⟨116, 116, go 291⟩], tr400⟩

def st291 : Row := ⟨[⟨105, 105, go 292⟩], tr400⟩

def st292 : Row := ⟨[⟨111, 111, go 293⟩], tr400⟩

def st293 : Row := ⟨[⟨110, 110, go 294⟩], tr400⟩

def st294 : Row := ⟨[⟨61, 61, go 295⟩], tr400⟩

def st295 : Row := ⟨[⟨34, 34, tr413⟩], tr400⟩

def st296 : Row := ⟨[⟨35, 126, tr414⟩, ⟨32, 33, tr414⟩], tr400⟩

def st297 : Row := ⟨[⟨34, 34, tr416⟩, ⟨32, 126, tr415⟩], tr400⟩

def st298 : Row := ⟨[⟨62, 62, go 299⟩], tr400⟩

def st299 : Row := ⟨[⟨10, 10, tr49⟩], tr356⟩

def st300 : Row :=
  ⟨[⟨10, 10, tr35⟩, ⟨61, 61, tr38⟩, ⟨95, 95, tr37⟩, ⟨115, 115, tr419⟩, ⟨32, 47, tr36⟩,
    ⟨58, 64, tr36⟩, ⟨48, 57, tr37⟩, ⟨91, 96, tr36⟩, ⟨123, 126, tr36⟩, ⟨97, 122, tr37⟩,
    ⟨65, 90, tr37⟩],
   tr418⟩

def st301 : Row :=
  ⟨[⟨10, 10, tr35⟩, ⟨61, 61, tr38⟩, ⟨95, 95, tr37⟩, ⟨115, 115, tr420⟩, ⟨32, 47, tr36⟩,
    ⟨58, 64, tr36⟩, ⟨48, 57, tr37⟩, ⟨91, 96, tr36⟩, ⟨123, 126, tr36⟩, ⟨97, 122, tr37⟩,
    ⟨65, 90, tr37⟩],
   tr418⟩

def st302 : Row :=
  ⟨[⟨10, 10, tr35⟩, ⟨61, 61, tr38⟩, ⟨95, 95, tr37⟩, ⟨101, 101, tr421⟩, ⟨32, 47, tr36⟩,
    ⟨58, 64, tr36⟩, ⟨48, 57, tr37⟩, ⟨91, 96, tr36⟩, ⟨123, 126, tr36⟩, ⟨97, 122, tr37⟩,
    ⟨65, 90, tr37⟩],
   tr418⟩

def st303 : Row :=
  ⟨[⟨10, 10, tr35⟩, ⟨61, 61, tr38⟩, ⟨95, 95, tr37⟩, ⟨109, 109, tr422⟩, ⟨32, 47, tr36⟩,
    ⟨58, 64, tr36⟩, ⟨48, 57, tr37⟩, ⟨91, 96, tr36⟩, ⟨123, 126, tr36⟩, ⟨97, 122, tr37⟩,
    ⟨65, 90, tr37⟩],
   tr418⟩

def st304 : Row :=
  ⟨[⟨10, 10, tr35⟩, ⟨61, 61, tr38⟩, ⟨95, 95, tr37⟩, ⟨98, 98, tr423⟩, ⟨32, 47, tr36⟩,
    ⟨58, 64, tr36⟩, ⟨48, 57, tr37⟩, ⟨91, 96, tr36⟩, ⟨123, 126, tr36⟩, ⟨97, 122, tr37⟩,
    ⟨65, 90, tr37⟩],
   tr418⟩

def st305 : Row :=
  ⟨[⟨10, 10, tr35⟩, ⟨61, 61, tr38⟩, ⟨95, 95, tr37⟩, ⟨108, 108, tr424⟩, ⟨32, 47, tr36⟩,
    ⟨58, 64, tr36⟩, ⟨48, 57, tr37⟩, ⟨91, 96, tr36⟩, ⟨123, 126, tr36⟩, ⟨97, 122, tr37⟩,
    ⟨65, 90, tr37⟩],
   tr418⟩

def st306 : Row :=
  ⟨[⟨10, 10, tr35⟩, ⟨61, 61, tr38⟩, ⟨95, 95, tr37⟩, ⟨121, 121, tr425⟩, ⟨32, 47, tr36⟩,
    ⟨58, 64, tr36⟩, ⟨48, 57, tr37⟩, ⟨91, 96, tr36⟩, ⟨123, 126, tr36⟩, ⟨97, 122, tr37⟩,
    ⟨65, 90, tr37⟩],
   tr418⟩

def st307 : Row :=
  ⟨[⟨10, 10, tr35⟩, ⟨61, 61, tr426⟩, ⟨95, 95, tr37⟩, ⟨32, 47, tr36⟩, ⟨58, 64, tr36⟩,
    ⟨48, 57, tr37⟩, ⟨91, 96, tr36⟩, ⟨123, 126, tr36⟩, ⟨97, 122, tr37⟩, ⟨65, 90, tr37⟩],
   tr418⟩

def st308 : Row := ⟨[⟨97, 122, tr428⟩, ⟨65, 90, tr428⟩], tr427⟩

def st309 : Row :=
  ⟨[⟨10, 10, tr427⟩, ⟨35, 35, tr427⟩, ⟨47, 47, tr427⟩, ⟨58, 58, tr427⟩, ⟨63, 63, tr427⟩],
   go 310⟩

def st310 : Row :=
  ⟨[⟨10, 10, tr427⟩, ⟨35, 35, tr427⟩, ⟨47, 47, tr427⟩, ⟨58, 58, go 311⟩, ⟨63, 63, tr427⟩],
   go 310⟩

def st311 : Row := ⟨[⟨47, 47, go 312⟩], tr427⟩

def st312 : Row := ⟨[⟨47, 47, go 313⟩], tr427⟩

def st313 : Row := ⟨[⟨97, 122, tr433⟩, ⟨65, 90, tr433⟩], tr427⟩

def st314 : Row := ⟨[⟨10, 10, tr35⟩], tr433⟩

def st315 : Row :=
  ⟨[⟨10, 10, tr35⟩, ⟨61, 61, tr38⟩, ⟨95, 95, tr37⟩, ⟨111, 111, tr435⟩, ⟨32, 47, tr36⟩,
    ⟨58, 64, tr36⟩, ⟨48, 57, tr37⟩, ⟨91, 96, tr36⟩, ⟨123, 126, tr36⟩, ⟨97, 122, tr37⟩,
    ⟨65, 90, tr37⟩],
   tr434⟩

def st316 : Row :=
  ⟨[⟨10, 10, tr35⟩, ⟨61, 61, tr38⟩, ⟨95, 95, tr37⟩, ⟨110, 110, tr436⟩, ⟨32, 47, tr36⟩,
    ⟨58, 64, tr36⟩, ⟨48, 57, tr37⟩, ⟨91, 96, tr36⟩, ⟨123, 126, tr36⟩, ⟨97, 122, tr37⟩,
    ⟨65, 90, tr37⟩],
   tr434⟩

def st317 : Row :=
  ⟨[⟨10, 10, tr35⟩, ⟨61, 61, tr38⟩, ⟨95, 95, tr37⟩, ⟨116, 116, tr437⟩, ⟨32, 47, tr36⟩,
    ⟨58, 64, tr36⟩, ⟨48, 57, tr37⟩, ⟨91, 96, tr36⟩, ⟨123, 126, tr36⟩, ⟨97, 122, tr37⟩,
    ⟨65, 90, tr37⟩],
   tr434⟩

def st318 : Row :=
  ⟨[⟨10, 10, tr35⟩, ⟨61, 61, tr38⟩, ⟨95, 95, tr37⟩, ⟨105, 105, tr438⟩, ⟨32, 47, tr36⟩,
    ⟨58, 64, tr36⟩, ⟨48, 57, tr37⟩, ⟨91, 96, tr36⟩, ⟨123, 126, tr36⟩, ⟨97, 122, tr37⟩,
    ⟨65, 90, tr37⟩],
   tr434⟩

def st319 : Row :=
  ⟨[⟨10, 10, tr35⟩, ⟨61, 61, tr38⟩, ⟨95, 95, tr37⟩, ⟨103, 103, tr439⟩, ⟨32, 47, tr36⟩,
    ⟨58, 64, tr36⟩, ⟨48, 57, tr37⟩, ⟨91, 96, tr36⟩, ⟨123, 126, tr36⟩, ⟨97, 122, tr37⟩,
    ⟨65, 90, tr37⟩],
   tr434⟩

def st320 : Row :=
  ⟨[⟨10, 10, tr35⟩, ⟨61, 61, tr440⟩, ⟨95, 95, tr37⟩, ⟨32, 47, tr36⟩, ⟨58, 64, tr36⟩,
    ⟨48, 57, tr37⟩, ⟨91, 96, tr36⟩, ⟨123, 126, tr36⟩, ⟨97, 122, tr37⟩, ⟨65, 90, tr37⟩],
   tr434⟩

def st321 : Row := ⟨[⟨60, 60, go 322⟩], tr434⟩

def st322 : Row := ⟨[⟨73, 73, go 323⟩], tr434⟩

def st323 : Row := ⟨[⟨68, 68, go 324⟩], tr434⟩

def st324 : Row := ⟨[⟨61, 61, go 325⟩], tr434⟩

def st325 : Row := ⟨[⟨48, 57, tr446⟩, ⟨97, 122, tr446⟩, ⟨65, 90, tr446⟩], tr445⟩

def st326 : Row :=
  ⟨[⟨44, 44, tr448⟩, ⟨59, 59, tr447⟩, ⟨62, 62, tr450⟩, ⟨33, 47, tr447⟩, ⟨61, 64, tr447⟩,
    ⟨48, 57, tr449⟩, ⟨91, 96, tr447⟩, ⟨123, 126, tr447⟩, ⟨97, 122, tr449⟩, ⟨65, 90, tr449⟩],
   tr445⟩

def st327 : Row :=
  ⟨[⟨59, 59, tr447⟩, ⟨61, 61, tr447⟩, ⟨33, 43, tr447⟩, ⟨48, 57, tr449⟩, ⟨45, 47, tr447⟩,
    ⟨65, 90, tr449⟩, ⟨123, 126, tr447⟩, ⟨97, 122, tr449⟩, ⟨91, 96, tr447⟩, ⟨63, 64, tr447⟩],
   tr445⟩

def st328 : Row :=
  ⟨[⟨44, 44, tr448⟩, ⟨59, 59, tr449⟩, ⟨62, 62, tr450⟩, ⟨61, 126, tr449⟩, ⟨33, 57, tr449⟩],
   tr445⟩

def st329 : Row :=
  ⟨[⟨95, 95, tr451⟩, ⟨45, 46, tr451⟩, ⟨97, 122, tr452⟩, ⟨65, 90, tr452⟩, ⟨48, 57, tr452⟩],
   tr434⟩

def st330 : Row :=
  ⟨[⟨95, 95, go 330⟩, ⟨45, 46, go 330⟩, ⟨97, 122, tr454⟩, ⟨65, 90, tr454⟩, ⟨48, 57, tr454⟩],
   tr434⟩

def st331 : Row :=
  ⟨[⟨61, 61, tr455⟩, ⟨95, 95, tr454⟩, ⟨45, 46, tr454⟩, ⟨97, 122, tr454⟩, ⟨65, 90, tr454⟩,
    ⟨48, 57, tr454⟩],
   tr434⟩

def st332 : Row :=
  ⟨[⟨9, 13, tr456⟩, ⟨63, 126, tr456⟩, ⟨45, 61, tr456⟩, ⟨32, 43, tr456⟩],
   tr434⟩

def st333 : Row :=
  ⟨[⟨44, 44, tr448⟩, ⟨62, 62, tr450⟩, ⟨32, 126, tr457⟩, ⟨9, 13, tr457⟩],
   tr434⟩

def st334 : Row := ⟨[⟨10, 10, tr49⟩], tr434⟩

def st335 : Row :=
  ⟨[⟨10, 10, tr35⟩, ⟨61, 61, tr38⟩, ⟨95, 95, tr37⟩, ⟨101, 101, tr459⟩, ⟨32, 47, tr36⟩,
    ⟨58, 64, tr36⟩, ⟨48, 57, tr37⟩, ⟨91, 96, tr36⟩, ⟨123, 126, tr36⟩, ⟨97, 122, tr37⟩,
    ⟨65, 90, tr37⟩],
   tr458⟩

def st336 : Row :=
  ⟨[⟨10, 10, tr35⟩, ⟨61, 61, tr38⟩, ⟨95, 95, tr37⟩, ⟨100, 100, tr460⟩, ⟨32, 47, tr36⟩,
    ⟨58, 64, tr36⟩, ⟨48, 57, tr37⟩, ⟨91, 96, tr36⟩, ⟨123, 126, tr36⟩, ⟨97, 122, tr37⟩,
    ⟨65, 90, tr37⟩],
   tr458⟩

def st337 : Row :=
  ⟨[⟨10, 10, tr35⟩, ⟨61, 61, tr38⟩, ⟨95, 95, tr37⟩, ⟨105, 105, tr461⟩, ⟨32, 47, tr36⟩,
    ⟨58, 64, tr36⟩, ⟨48, 57, tr37⟩, ⟨91, 96, tr36⟩, ⟨123, 126, tr36⟩, ⟨97, 122, tr37⟩,
    ⟨65, 90, tr37⟩],
   tr458⟩

def st338 : Row :=
  ⟨[⟨10, 10, tr35⟩, ⟨61, 61, tr38⟩, ⟨95, 95, tr37⟩, ⟨103, 103, tr462⟩, ⟨32, 47, tr36⟩,
    ⟨58, 64, tr36⟩, ⟨48, 57, tr37⟩, ⟨91, 96, tr36⟩, ⟨123, 126, tr36⟩, ⟨97, 122, tr37⟩,
    ⟨65, 90, tr37⟩],
   tr458⟩

def st339 : Row :=
  ⟨[⟨10, 10, tr35⟩, ⟨61, 61, tr38⟩, ⟨95, 95, tr37⟩, ⟨114, 114, tr463⟩, ⟨32, 47, tr36⟩,
    ⟨58, 64, tr36⟩, ⟨48, 57, tr37⟩, ⟨91, 96, tr36⟩, ⟨123, 126, tr36⟩, ⟨97, 122, tr37⟩,
    ⟨65, 90, tr37⟩],
   tr458⟩

def st340 : Row :=
  ⟨[⟨10, 10, tr35⟩, ⟨61, 61, tr38⟩, ⟨95, 95, tr37⟩, ⟨101, 101, tr464⟩, ⟨32, 47, tr36⟩,
    ⟨58, 64, tr36⟩, ⟨48, 57, tr37⟩, ⟨91, 96, tr36⟩, ⟨123, 126, tr36⟩, ⟨97, 122, tr37⟩,
    ⟨65, 90, tr37⟩],
   tr458⟩

def st341 : Row :=
  ⟨[⟨10, 10, tr35⟩, ⟨61, 61, tr38⟩, ⟨95, 95, tr37⟩, ⟨101, 101, tr465⟩, ⟨32, 47, tr36⟩,
    ⟨58, 64, tr36⟩, ⟨48, 57, tr37⟩, ⟨91, 96, tr36⟩, ⟨123, 126, tr36⟩, ⟨97, 122, tr37⟩,
    ⟨65, 90, tr37⟩],
   tr458⟩

def st342 : Row :=
  ⟨[⟨10, 10, tr35⟩, ⟨61, 61, tr38⟩, ⟨68, 68, tr466⟩, ⟨95, 95, tr37⟩, ⟨32, 47, tr36⟩,
    ⟨58, 64, tr36⟩, ⟨48, 57, tr37⟩, ⟨91, 96, tr36⟩, ⟨123, 126, tr36⟩, ⟨97, 122, tr37⟩,
    ⟨65, 90, tr37⟩],
   tr458⟩

def st343 : Row :=
  ⟨[⟨10, 10, tr35⟩, ⟨61, 61, tr38⟩, ⟨66, 66, tr467⟩, ⟨95, 95, tr37⟩, ⟨32, 47, tr36⟩,
    ⟨58, 64, tr36⟩, ⟨48, 57, tr37⟩, ⟨91, 96, tr36⟩, ⟨123, 126, tr36⟩, ⟨97, 122, tr37⟩,
    ⟨65, 90, tr37⟩],
   tr458⟩

def st344 : Row :=
  ⟨[⟨10, 10, tr35⟩, ⟨61, 61, tr468⟩, ⟨95, 95, tr37⟩, ⟨32, 47, tr36⟩, ⟨58, 64, tr36⟩,
    ⟨48, 57, tr37⟩, ⟨91, 96, tr36⟩, ⟨123, 126, tr36⟩, ⟨97, 122, tr37⟩, ⟨65, 90, tr37⟩],
   tr458⟩

def st345 : Row := ⟨[⟨60, 60, go 346⟩], tr458⟩

def st346 : Row := ⟨[⟨97, 122, tr471⟩, ⟨65, 90, tr471⟩], tr470⟩

def st347 : Row :=
  ⟨[⟨10, 10, tr470⟩, ⟨35, 35, tr470⟩, ⟨47, 47, tr470⟩, ⟨58, 58, tr470⟩, ⟨63, 63, tr470⟩],
   go 348⟩

def st348 : Row :=
  ⟨[⟨10, 10, tr470⟩, ⟨35, 35, tr470⟩, ⟨47, 47, tr470⟩, ⟨58, 58, go 349⟩, ⟨63, 63, tr470⟩],
   go 348⟩

def st349 : Row := ⟨[⟨47, 47, go 350⟩], tr470⟩

def st350 : Row := ⟨[⟨47, 47, go 351⟩], tr470⟩

def st351 : Row := ⟨[⟨97, 122, tr476⟩, ⟨65, 90, tr476⟩], tr470⟩

def st352 : Row := ⟨[⟨10, 10, tr470⟩, ⟨62, 62, tr477⟩], tr476⟩

def st353 : Row := ⟨[⟨10, 10, tr49⟩, ⟨62, 62, tr477⟩], tr476⟩

def st621 : Row := ⟨[⟨10, 10, tr805⟩], go 621⟩

end VcfValidator.Scanner
