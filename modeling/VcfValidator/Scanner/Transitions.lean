import VcfValidator.Scanner.Basic

/-!
# The transitions of the generated scanner

Every label `trK` of `Parser::parse_buffer` in `validator_detail.hpp`: the action blocks the
generator copied from `vcf_v41.ragel` (each tagged with its `#line`), in the order they appear,
and the state of the `goto stM` that ends the label. An error action jumps to a skip state before
the final `goto st0`, so a label made of error actions keeps `st0` as its target.
-/

namespace VcfValidator.Scanner

set_option autoImplicit false

/-- `#line 45`. -/
def fileformatSectionError : Action := .error .fileformat .none

/-- `#line 50`. -/
def metaSectionError : Action := .error .meta .none

/-- `#line 63`. -/
def headerSectionError : Action := .error .header .none

/-- `#line 68`. -/
def bodySectionError : Action := .error .body .none

/-- `#line 191`. -/
def fileformatCharsError : Action := .error .fileformat (.text "Fileformat is not a sequence of alphanumeric and/or punctuation characters")

/-- `#line 198`. -/
def altMetaError : Action := .error .meta (.text "Error in ALT metadata")

/-- `#line 203`. -/
def altIdPrefixError : Action := .error .meta (.text "ALT metadata ID is not prefixed by DEL/INS/DUP/INV/CNV and suffixed by ':' and a text sequence")

/-- `#line 209`. -/
def assemblyMetaError : Action := .error .meta (.text "Error in assembly metadata")

/-- `#line 215`. -/
def contigMetaError : Action := .error .meta (.text "Error in contig metadata")

/-- `#line 221`. -/
def filterMetaError : Action := .error .meta (.text "Error in FILTER metadata")

/-- `#line 227`. -/
def formatMetaError : Action := .error .meta (.text "Error in FORMAT metadata")

/-- `#line 232`. -/
def formatNumberError : Action := .error .meta (.text "FORMAT metadata Number is not a number, A, R, G or dot")

/-- `#line 243`. -/
def infoMetaError : Action := .error .meta (.text "Error in INFO metadata")

/-- `#line 248`. -/
def infoNumberError : Action := .error .meta (.text "INFO metadata Number is not a number, A, R, G or dot")

/-- `#line 253`. -/
def infoTypeError : Action := .error .meta (.text "INFO metadata Type is not a Integer, Float, Flag, Character or String")

/-- `#line 259`. -/
def pedigreeMetaError : Action := .error .meta (.text "Error in PEDIGREE metadata")

/-- `#line 265`. -/
def pedigreeDbMetaError : Action := .error .meta (.text "Error in pedigreeDB metadata")

/-- `#line 271`. -/
def sampleMetaError : Action := .error .meta (.text "Error in SAMPLE metadata")

/-- `#line 276`. -/
def sampleGenomesError : Action := .error .meta (.text "SAMPLE metadata Genomes is not a valid string (maybe it contains quotes?)")

/-- `#line 281`. -/
def sampleMixtureError : Action := .error .meta (.text "SAMPLE metadata Mixture is not a valid string (maybe it contains quotes?)")

/-- `#line 287`. -/
def metaIdError : Action := .error .meta (.text "Metadata ID contains a character different from alphanumeric, dot, underscore and dash")

/-- `#line 292`. -/
def descriptionError : Action := .error .meta (.text "Metadata description string is not valid")

/-- `#line 297`. -/
def urlError : Action := .error .meta (.text "Metadata URL is not valid")

/-- `#line 303`. -/
def headerColumnsError : Action := .error .header (.text "The header line does not start with the mandatory columns: CHROM, POS, ID, REF, ALT, QUAL, FILTER and INFO")

/-- `#line 311`. -/
def chromError : Action := .error .body (.text "Chromosome is not a string without colons or whitespaces, optionally wrapped with angle brackets (<>)")

/-- `#line 317`. -/
def posError : Action := .error .body (.text "Position is not a positive number")

/-- `#line 323`. -/
def idError : Action := .error .body (.text "ID is not a single dot or a list of strings without semicolons or whitespaces")

/-- `#line 329`. -/
def refError : Action := .error .body (.text "Reference is not a string of bases")

/-- `#line 335`. -/
def altError : Action := .error .body (.text "Alternate is not a single dot or a comma-separated list of bases")

/-- `#line 341`. -/
def qualError : Action := .error .body (.text "Quality is not a single dot or a positive number")

/-- `#line 347`. -/
def filterError : Action := .error .body (.text "Filter is not a single dot or a semicolon-separated list of strings")

/-- `#line 353`. -/
def infoError : Action := .error .body (.text "Info is not a single dot or a semicolon-separated list of key-value pairs")

/-- `#line 358`. -/
def infoKeyError : Action := .error .body (.text "Info key is not a sequence of alphanumeric and/or punctuation characters")

/-- `#line 363`. -/
def infoValueError : Action := .error .body (.text "Info field value is not a comma-separated list of valid strings (maybe it contains whitespaces?)")

/-- `#line 368`. -/
def infoAaError : Action := .error .body (.text "Info AA value is not a single dot or a string of bases")

/-- `#line 373`. -/
def infoAcError : Action := .error .body (.text "Info AC value is not a comma-separated list of numbers")

/-- `#line 378`. -/
def infoAfError : Action := .error .body (.text "Info AF value is not a comma-separated list of numbers")

/-- `#line 383`. -/
def infoAnError : Action := .error .body (.text "Info AN value is not an integer number")

/-- `#line 388`. -/
def infoBqError : Action := .error .body (.text "Info BQ value is not a number")

/-- `#line 393`. -/
def infoCigarError : Action := .error .body (.text "Info CIGAR value is not an alphanumeric string")

/-- `#line 398`. -/
def infoDbError : Action := .error .body (.text "Info DB is not a flag (with 1/0/no value)")

/-- `#line 403`. -/
def infoDpError : Action := .error .body (.text "Info DP value is not an integer number")

/-- `#line 408`. -/
def infoEndError : Action := .error .body (.text "Info END value is not an integer number")

/-- `#line 413`. -/
def infoH2Error : Action := .error .body (.text "Info H2 is not a flag (with 1/0/no value)")

/-- `#line 418`. -/
def infoH3Error : Action := .error .body (.text "Info H3 is not a flag (with 1/0/no value)")

/-- `#line 423`. -/
def infoMqError : Action := .error .body (.text "Info MQ value is not a number")

/-- `#line 428`. -/
def infoMq0Error : Action := .error .body (.text "Info MQ0 value is not an integer number")

/-- `#line 433`. -/
def infoNsError : Action := .error .body (.text "Info NS value is not an integer number")

/-- `#line 438`. -/
def infoSbError : Action := .error .body (.text "Info SB value is not a number")

/-- `#line 443`. -/
def infoSomaticError : Action := .error .body (.text "Info SOMATIC is not a flag (with 1/0/no value)")

/-- `#line 448`. -/
def infoValidatedError : Action := .error .body (.text "Info VALIDATED is not a flag (with 1/0/no value)")

/-- `#line 453`. -/
def info1000gError : Action := .error .body (.text "Info 1000G is not a flag (with 1/0/no value)")

/-- `#line 459`. -/
def formatError : Action := .error .body (.text "Format is not a colon-separated list of alphanumeric strings")

/-- `#line 465`. -/
def sampleError : Action := .error .body .sampleInvalid

/-- `#line 472`. -/
def genotypeError : Action := .error .body .sampleGenotype

def tr0 : Tr := ⟨[fileformatSectionError], 0⟩
def tr14 : Tr := ⟨[fileformatCharsError, fileformatSectionError], 0⟩
def tr15 : Tr := ⟨[.tokenBegin, .tokenChar], 15⟩
def tr16 : Tr := ⟨[.fileformat, .newline], 16⟩
def tr17 : Tr := ⟨[.tokenChar], 15⟩
def tr18 : Tr := ⟨[fileformatSectionError, metaSectionError, headerColumnsError, headerSectionError], 0⟩
def tr20 : Tr := ⟨[metaSectionError, headerColumnsError, headerSectionError], 0⟩
def tr23 : Tr := ⟨[altMetaError, filterMetaError, formatMetaError, infoMetaError, assemblyMetaError, contigMetaError, sampleMetaError, pedigreeMetaError, pedigreeDbMetaError, metaSectionError], 0⟩
def tr24 : Tr := ⟨[.tokenBegin, .tokenChar], 19⟩
def tr25 : Tr := ⟨[.tokenBegin, .tokenChar], 21⟩
def tr26 : Tr := ⟨[.tokenBegin, .tokenChar], 70⟩
def tr27 : Tr := ⟨[.tokenBegin, .tokenChar], 101⟩
def tr28 : Tr := ⟨[.tokenBegin, .tokenChar], 185⟩
def tr29 : Tr := ⟨[.tokenBegin, .tokenChar], 234⟩
def tr30 : Tr := ⟨[.tokenBegin, .tokenChar], 250⟩
def tr31 : Tr := ⟨[.tokenBegin, .tokenChar], 300⟩
def tr32 : Tr := ⟨[.tokenBegin, .tokenChar], 315⟩
def tr33 : Tr := ⟨[.tokenBegin, .tokenChar], 335⟩
def tr34 : Tr := ⟨[metaSectionError], 0⟩
def tr35 : Tr := ⟨[.tokenEnd, .metaLine, .newline], 20⟩
def tr36 : Tr := ⟨[.tokenChar], 19⟩
def tr37 : Tr := ⟨[.tokenChar], 21⟩
def tr38 : Tr := ⟨[.metaTypeid none], 22⟩
def tr41 : Tr := ⟨[.tokenBegin, .tokenChar], 24⟩
def tr42 : Tr := ⟨[.tokenChar], 24⟩
def tr44 : Tr := ⟨[.tokenBegin], 29⟩
def tr45 : Tr := ⟨[.tokenBegin, .tokenChar], 69⟩
def tr46 : Tr := ⟨[.tokenBegin, .tokenChar], 27⟩
def tr47 : Tr := ⟨[.tokenChar], 27⟩
def tr48 : Tr := ⟨[.tokenChar, .tokenEnd], 28⟩
def tr49 : Tr := ⟨[.metaLine, .newline], 20⟩
def tr50 : Tr := ⟨[.tokenBegin, .tokenChar], 30⟩
def tr51 : Tr := ⟨[.tokenChar, .tokenBegin], 31⟩
def tr52 : Tr := ⟨[.tokenChar], 30⟩
def tr53 : Tr := ⟨[.tokenChar], 31⟩
def tr54 : Tr := ⟨[.metaKey none, .tokenChar], 32⟩
def tr55 : Tr := ⟨[.tokenBegin, .tokenChar], 33⟩
def tr56 : Tr := ⟨[.tokenBegin, .tokenChar], 48⟩
def tr57 : Tr := ⟨[.tokenBegin, .tokenChar], 62⟩
def tr58 : Tr := ⟨[.tokenChar], 33⟩
def tr59 : Tr := ⟨[.tokenEnd], 34⟩
def tr60 : Tr := ⟨[.tokenEnd], 43⟩
def tr61 : Tr := ⟨[.tokenBegin], 35⟩
def tr62 : Tr := ⟨[.tokenBegin, .tokenChar], 36⟩
def tr64 : Tr := ⟨[.tokenChar], 36⟩
def tr65 : Tr := ⟨[.metaKey none], 37⟩
def tr66 : Tr := ⟨[.tokenBegin, .tokenChar], 38⟩
def tr67 : Tr := ⟨[.tokenChar, .tokenBegin], 39⟩
def tr68 : Tr := ⟨[.tokenEnd, .tokenBegin, .tokenChar], 40⟩
def tr69 : Tr := ⟨[.tokenEnd, .tokenBegin, .tokenChar], 47⟩
def tr70 : Tr := ⟨[.tokenChar], 39⟩
def tr71 : Tr := ⟨[.tokenChar, .tokenEnd], 33⟩
def tr72 : Tr := ⟨[.tokenEnd, .tokenChar], 40⟩
def tr73 : Tr := ⟨[.tokenEnd, .tokenChar], 47⟩
def tr74 : Tr := ⟨[.tokenChar], 41⟩
def tr75 : Tr := ⟨[.tokenEnd], 42⟩
def tr76 : Tr := ⟨[.tokenBegin, .tokenChar], 44⟩
def tr77 : Tr := ⟨[.tokenBegin, .tokenChar], 45⟩
def tr80 : Tr := ⟨[.tokenChar], 44⟩
def tr81 : Tr := ⟨[.tokenChar], 45⟩
def tr82 : Tr := ⟨[.metaKey none, .tokenChar], 46⟩
def tr83 : Tr := ⟨[.tokenBegin, .tokenChar], 39⟩
def tr84 : Tr := ⟨[.tokenBegin, .tokenChar, .tokenEnd], 38⟩
def tr85 : Tr := ⟨[.tokenChar], 48⟩
def tr86 : Tr := ⟨[.tokenEnd, .tokenChar], 49⟩
def tr87 : Tr := ⟨[.tokenEnd, .tokenChar], 28⟩
def tr88 : Tr := ⟨[.tokenBegin, .tokenChar], 50⟩
def tr89 : Tr := ⟨[.tokenBegin, .tokenChar], 51⟩
def tr90 : Tr := ⟨[.tokenChar], 50⟩
def tr91 : Tr := ⟨[.tokenChar], 51⟩
def tr92 : Tr := ⟨[.metaKey none, .tokenChar], 52⟩
def tr93 : Tr := ⟨[.tokenBegin, .tokenChar], 53⟩
def tr94 : Tr := ⟨[.tokenChar, .tokenBegin], 54⟩
def tr95 : Tr := ⟨[.tokenEnd, .tokenBegin, .tokenChar], 55⟩
def tr96 : Tr := ⟨[.tokenEnd, .tokenBegin, .tokenChar], 58⟩
def tr97 : Tr := ⟨[.tokenChar], 54⟩
def tr98 : Tr := ⟨[.tokenChar, .tokenEnd], 48⟩
def tr99 : Tr := ⟨[.tokenEnd, .tokenChar], 55⟩
def tr100 : Tr := ⟨[.tokenEnd, .tokenChar], 58⟩
def tr101 : Tr := ⟨[.tokenChar], 56⟩
def tr102 : Tr := ⟨[.tokenEnd, .tokenChar], 57⟩
def tr103 : Tr := ⟨[.tokenBegin, .tokenChar], 59⟩
def tr104 : Tr := ⟨[.tokenBegin, .tokenChar], 60⟩
def tr105 : Tr := ⟨[.tokenChar, .tokenEnd], 58⟩
def tr106 : Tr := ⟨[.tokenChar], 49⟩
def tr107 : Tr := ⟨[.tokenChar], 59⟩
def tr108 : Tr := ⟨[.tokenChar], 60⟩
def tr109 : Tr := ⟨[.metaKey none, .tokenChar], 61⟩
def tr110 : Tr := ⟨[.tokenBegin, .tokenChar], 54⟩
def tr111 : Tr := ⟨[.tokenBegin, .tokenChar, .tokenEnd], 53⟩
def tr112 : Tr := ⟨[.tokenChar, .tokenBegin], 63⟩
def tr113 : Tr := ⟨[.tokenEnd, .tokenBegin, .tokenChar], 64⟩
def tr114 : Tr := ⟨[.tokenChar], 63⟩
def tr115 : Tr := ⟨[.tokenEnd, .tokenChar], 64⟩
def tr116 : Tr := ⟨[.tokenChar, .tokenBegin], 65⟩
def tr117 : Tr := ⟨[.tokenChar, .tokenBegin], 66⟩
def tr118 : Tr := ⟨[.tokenChar], 65⟩
def tr119 : Tr := ⟨[.tokenChar], 66⟩
def tr120 : Tr := ⟨[.tokenChar, .metaKey none], 67⟩
def tr121 : Tr := ⟨[.tokenChar, .tokenBegin], 68⟩
def tr122 : Tr := ⟨[.tokenEnd, .tokenBegin, .tokenChar], 53⟩
def tr123 : Tr := ⟨[.tokenChar], 68⟩
def tr124 : Tr := ⟨[.tokenEnd, .tokenChar], 48⟩
def tr125 : Tr := ⟨[.tokenChar, .tokenEnd], 64⟩
def tr126 : Tr := ⟨[.metaKey none, .tokenBegin, .tokenChar], 32⟩
def tr127 : Tr := ⟨[altMetaError, metaSectionError], 0⟩
def tr128 : Tr := ⟨[.tokenChar], 71⟩
def tr129 : Tr := ⟨[.tokenChar], 72⟩
def tr130 : Tr := ⟨[.metaTypeid (some "ALT")], 73⟩
def tr135 : Tr := ⟨[altIdPrefixError, altMetaError, metaSectionError], 0⟩
def tr136 : Tr := ⟨[.metaKey (some "ID"), .tokenBegin, .tokenChar], 78⟩
def tr137 : Tr := ⟨[.metaKey (some "ID"), .tokenBegin], 100⟩
def tr138 : Tr := ⟨[.tokenEnd], 79⟩
def tr139 : Tr := ⟨[.tokenChar], 78⟩
def tr152 : Tr := ⟨[.metaKey (some "Description")], 92⟩
def tr153 : Tr := ⟨[.tokenBegin, .tokenChar], 93⟩
def tr154 : Tr := ⟨[descriptionError, altMetaError, metaSectionError], 0⟩
def tr155 : Tr := ⟨[.tokenChar], 93⟩
def tr156 : Tr := ⟨[.tokenEnd], 94⟩
def tr159 : Tr := ⟨[metaIdError, altMetaError, metaSectionError], 0⟩
def tr160 : Tr := ⟨[.tokenBegin], 96⟩
def tr161 : Tr := ⟨[.tokenBegin, .tokenChar], 97⟩
def tr163 : Tr := ⟨[.tokenChar], 97⟩
def tr164 : Tr := ⟨[.tokenEnd], 98⟩
def tr167 : Tr := ⟨[filterMetaError, formatMetaError, metaSectionError], 0⟩
def tr168 : Tr := ⟨[.tokenChar], 102⟩
def tr169 : Tr := ⟨[.tokenChar], 135⟩
def tr170 : Tr := ⟨[filterMetaError, metaSectionError], 0⟩
def tr171 : Tr := ⟨[.tokenChar], 103⟩
def tr172 : Tr := ⟨[.tokenChar], 104⟩
def tr173 : Tr := ⟨[.tokenChar], 105⟩
def tr174 : Tr := ⟨[.tokenChar], 106⟩
def tr175 : Tr := ⟨[.metaTypeid (some "FILTER")], 107⟩
def tr180 : Tr := ⟨[metaIdError, filterMetaError, metaSectionError], 0⟩
def tr181 : Tr := ⟨[.metaKey (some "ID"), .tokenBegin], 112⟩
def tr182 : Tr := ⟨[.metaKey (some "ID"), .tokenBegin, .tokenChar], 113⟩
def tr184 : Tr := ⟨[.tokenChar], 113⟩
def tr185 : Tr := ⟨[.tokenEnd], 114⟩
def tr198 : Tr := ⟨[.metaKey (some "Description")], 127⟩
def tr199 : Tr := ⟨[.tokenBegin, .tokenChar], 128⟩
def tr200 : Tr := ⟨[descriptionError, filterMetaError, metaSectionError], 0⟩
def tr201 : Tr := ⟨[.tokenChar], 128⟩
def tr202 : Tr := ⟨[.tokenEnd], 129⟩
def tr205 : Tr := ⟨[.tokenBegin], 131⟩
def tr206 : Tr := ⟨[.tokenBegin, .tokenChar], 132⟩
def tr208 : Tr := ⟨[.tokenChar], 132⟩
def tr209 : Tr := ⟨[.tokenEnd], 133⟩
def tr211 : Tr := ⟨[formatMetaError, metaSectionError], 0⟩
def tr212 : Tr := ⟨[.tokenChar], 136⟩
def tr213 : Tr := ⟨[.tokenChar], 137⟩
def tr214 : Tr := ⟨[.tokenChar], 138⟩
def tr215 : Tr := ⟨[.tokenChar], 139⟩
def tr216 : Tr := ⟨[.metaTypeid (some "FORMAT")], 140⟩
def tr221 : Tr := ⟨[metaIdError, formatMetaError, metaSectionError], 0⟩
def tr222 : Tr := ⟨[.metaKey (some "ID"), .tokenBegin], 145⟩
def tr223 : Tr := ⟨[.metaKey (some "ID"), .tokenBegin, .tokenChar], 146⟩
def tr225 : Tr := ⟨[.tokenChar], 146⟩
def tr226 : Tr := ⟨[.tokenEnd], 147⟩
def tr234 : Tr := ⟨[formatNumberError, formatMetaError, metaSectionError], 0⟩
def tr235 : Tr := ⟨[.metaKey (some "Number"), .tokenBegin, .tokenChar], 155⟩
def tr236 : Tr := ⟨[.metaKey (some "Number"), .tokenBegin, .tokenChar], 184⟩
def tr237 : Tr := ⟨[.tokenEnd], 156⟩
def tr243 : Tr := ⟨[infoTypeError, formatMetaError, metaSectionError], 0⟩
def tr244 : Tr := ⟨[.metaKey (some "Type"), .tokenBegin, .tokenChar], 162⟩
def tr245 : Tr := ⟨[.tokenEnd], 163⟩
def tr246 : Tr := ⟨[.tokenChar], 162⟩
def tr259 : Tr := ⟨[.metaKey (some "Description")], 176⟩
def tr260 : Tr := ⟨[.tokenBegin, .tokenChar], 177⟩
def tr261 : Tr := ⟨[descriptionError, formatMetaError, metaSectionError], 0⟩
def tr262 : Tr := ⟨[.tokenChar], 177⟩
def tr263 : Tr := ⟨[.tokenEnd], 178⟩
def tr266 : Tr := ⟨[.tokenBegin], 180⟩
def tr267 : Tr := ⟨[.tokenBegin, .tokenChar], 181⟩
def tr269 : Tr := ⟨[.tokenChar], 181⟩
def tr270 : Tr := ⟨[.tokenEnd], 182⟩
def tr272 : Tr := ⟨[.tokenChar], 184⟩
def tr273 : Tr := ⟨[infoMetaError, metaSectionError], 0⟩
def tr274 : Tr := ⟨[.tokenChar], 186⟩
def tr275 : Tr := ⟨[.tokenChar], 187⟩
def tr276 : Tr := ⟨[.tokenChar], 188⟩
def tr277 : Tr := ⟨[.metaTypeid (some "INFO")], 189⟩
def tr282 : Tr := ⟨[metaIdError, infoMetaError, metaSectionError], 0⟩
def tr283 : Tr := ⟨[.metaKey (some "ID"), .tokenBegin], 194⟩
def tr284 : Tr := ⟨[.metaKey (some "ID"), .tokenBegin, .tokenChar], 195⟩
def tr286 : Tr := ⟨[.tokenChar], 195⟩
def tr287 : Tr := ⟨[.tokenEnd], 196⟩
def tr295 : Tr := ⟨[infoNumberError, infoMetaError, metaSectionError], 0⟩
def tr296 : Tr := ⟨[.metaKey (some "Number"), .tokenBegin, .tokenChar], 204⟩
def tr297 : Tr := ⟨[.metaKey (some "Number"), .tokenBegin, .tokenChar], 233⟩
def tr298 : Tr := ⟨[.tokenEnd], 205⟩
def tr304 : Tr := ⟨[infoTypeError, infoMetaError, metaSectionError], 0⟩
def tr305 : Tr := ⟨[.metaKey (some "Type"), .tokenBegin, .tokenChar], 211⟩
def tr306 : Tr := ⟨[.tokenEnd], 212⟩
def tr307 : Tr := ⟨[.tokenChar], 211⟩
def tr320 : Tr := ⟨[.metaKey (some "Description")], 225⟩
def tr321 : Tr := ⟨[.tokenBegin, .tokenChar], 226⟩
def tr322 : Tr := ⟨[descriptionError, infoMetaError, metaSectionError], 0⟩
def tr323 : Tr := ⟨[.tokenChar], 226⟩
def tr324 : Tr := ⟨[.tokenEnd], 227⟩
def tr327 : Tr := ⟨[.tokenBegin], 229⟩
def tr328 : Tr := ⟨[.tokenBegin, .tokenChar], 230⟩
def tr330 : Tr := ⟨[.tokenChar], 230⟩
def tr331 : Tr := ⟨[.tokenEnd], 231⟩
def tr333 : Tr := ⟨[.tokenChar], 233⟩
def tr334 : Tr := ⟨[pedigreeMetaError, metaSectionError], 0⟩
def tr335 : Tr := ⟨[.tokenChar], 235⟩
def tr336 : Tr := ⟨[.tokenChar], 236⟩
def tr337 : Tr := ⟨[.tokenChar], 237⟩
def tr338 : Tr := ⟨[.tokenChar], 238⟩
def tr339 : Tr := ⟨[.tokenChar], 239⟩
def tr340 : Tr := ⟨[.tokenChar], 240⟩
def tr341 : Tr := ⟨[.tokenChar], 241⟩
def tr342 : Tr := ⟨[.metaTypeid (some "PEDIGREE")], 242⟩
def tr344 : Tr := ⟨[metaIdError, pedigreeMetaError, metaSectionError], 0⟩
def tr345 : Tr := ⟨[.tokenBegin], 244⟩
def tr346 : Tr := ⟨[.tokenBegin, .tokenChar], 245⟩
def tr348 : Tr := ⟨[.tokenChar], 245⟩
def tr349 : Tr := ⟨[.tokenEnd], 246⟩
def tr350 : Tr := ⟨[.tokenBegin], 247⟩
def tr351 : Tr := ⟨[.tokenBegin, .tokenChar], 248⟩
def tr353 : Tr := ⟨[.tokenChar], 248⟩
def tr354 : Tr := ⟨[.tokenEnd], 243⟩
def tr355 : Tr := ⟨[.tokenEnd], 249⟩
def tr356 : Tr := ⟨[sampleMetaError, metaSectionError], 0⟩
def tr357 : Tr := ⟨[.tokenChar], 251⟩
def tr358 : Tr := ⟨[.tokenChar], 252⟩
def tr359 : Tr := ⟨[.tokenChar], 253⟩
def tr360 : Tr := ⟨[.tokenChar], 254⟩
def tr361 : Tr := ⟨[.tokenChar], 255⟩
def tr362 : Tr := ⟨[.metaTypeid (some "SAMPLE")], 256⟩
def tr367 : Tr := ⟨[metaIdError, sampleMetaError, metaSectionError], 0⟩
def tr368 : Tr := ⟨[.metaKey (some "ID"), .tokenBegin], 261⟩
def tr369 : Tr := ⟨[.metaKey (some "ID"), .tokenBegin, .tokenChar], 262⟩
def tr371 : Tr := ⟨[.tokenChar], 262⟩
def tr372 : Tr := ⟨[metaIdError, sampleGenomesError, sampleMetaError, metaSectionError], 0⟩
def tr373 : Tr := ⟨[.tokenEnd], 263⟩
def tr374 : Tr := ⟨[sampleGenomesError, sampleMetaError, metaSectionError], 0⟩
def tr383 : Tr := ⟨[.metaKey (some "Genomes"), .tokenBegin, .tokenChar], 272⟩
def tr384 : Tr := ⟨[sampleGenomesError, sampleMixtureError, sampleMetaError, metaSectionError], 0⟩
def tr385 : Tr := ⟨[.tokenChar], 272⟩
def tr386 : Tr := ⟨[.tokenEnd], 273⟩
def tr387 : Tr := ⟨[sampleMixtureError, sampleMetaError, metaSectionError], 0⟩
def tr396 : Tr := ⟨[.metaKey (some "Mixture"), .tokenBegin, .tokenChar], 282⟩
def tr397 : Tr := ⟨[sampleMixtureError, descriptionError, sampleMetaError, metaSectionError], 0⟩
def tr398 : Tr := ⟨[.tokenChar], 282⟩
def tr399 : Tr := ⟨[.tokenEnd], 283⟩
def tr400 : Tr := ⟨[descriptionError, sampleMetaError, metaSectionError], 0⟩
def tr413 : Tr := ⟨[.metaKey (some "Description")], 296⟩
def tr414 : Tr := ⟨[.tokenBegin, .tokenChar], 297⟩
def tr415 : Tr := ⟨[.tokenChar], 297⟩
def tr416 : Tr := ⟨[.tokenEnd], 298⟩
def tr418 : Tr := ⟨[assemblyMetaError, metaSectionError], 0⟩
def tr419 : Tr := ⟨[.tokenChar], 301⟩
def tr420 : Tr := ⟨[.tokenChar], 302⟩
def tr421 : Tr := ⟨[.tokenChar], 303⟩
def tr422 : Tr := ⟨[.tokenChar], 304⟩
def tr423 : Tr := ⟨[.tokenChar], 305⟩
def tr424 : Tr := ⟨[.tokenChar], 306⟩
def tr425 : Tr := ⟨[.tokenChar], 307⟩
def tr426 : Tr := ⟨[.metaTypeid (some "assembly")], 308⟩
def tr427 : Tr := ⟨[urlError, assemblyMetaError, metaSectionError], 0⟩
def tr428 : Tr := ⟨[.tokenBegin], 309⟩
def tr433 : Tr := ⟨[.tokenChar], 314⟩
def tr434 : Tr := ⟨[contigMetaError, metaSectionError], 0⟩
def tr435 : Tr := ⟨[.tokenChar], 316⟩
def tr436 : Tr := ⟨[.tokenChar], 317⟩
def tr437 : Tr := ⟨[.tokenChar], 318⟩
def tr438 : Tr := ⟨[.tokenChar], 319⟩
def tr439 : Tr := ⟨[.tokenChar], 320⟩
def tr440 : Tr := ⟨[.metaTypeid (some "contig")], 321⟩
def tr445 : Tr := ⟨[metaIdError, contigMetaError, metaSectionError], 0⟩
def tr446 : Tr := ⟨[.metaKey (some "ID"), .tokenBegin, .tokenChar], 326⟩
def tr447 : Tr := ⟨[.tokenChar], 327⟩
def tr448 : Tr := ⟨[.tokenEnd], 329⟩
def tr449 : Tr := ⟨[.tokenChar], 328⟩
def tr450 : Tr := ⟨[.tokenEnd], 334⟩
def tr451 : Tr := ⟨[.tokenBegin], 330⟩
def tr452 : Tr := ⟨[.tokenBegin, .tokenChar], 331⟩
def tr454 : Tr := ⟨[.tokenChar], 331⟩
def tr455 : Tr := ⟨[.tokenEnd], 332⟩
def tr456 : Tr := ⟨[.tokenBegin, .tokenChar], 333⟩
def tr457 : Tr := ⟨[.tokenChar], 333⟩
def tr458 : Tr := ⟨[pedigreeDbMetaError, metaSectionError], 0⟩
def tr459 : Tr := ⟨[.tokenChar], 336⟩
def tr460 : Tr := ⟨[.tokenChar], 337⟩
def tr461 : Tr := ⟨[.tokenChar], 338⟩
def tr462 : Tr := ⟨[.tokenChar], 339⟩
def tr463 : Tr := ⟨[.tokenChar], 340⟩
def tr464 : Tr := ⟨[.tokenChar], 341⟩
def tr465 : Tr := ⟨[.tokenChar], 342⟩
def tr466 : Tr := ⟨[.tokenChar], 343⟩
def tr467 : Tr := ⟨[.tokenChar], 344⟩
def tr468 : Tr := ⟨[.metaTypeid (some "pedigreeDB")], 345⟩
def tr470 : Tr := ⟨[urlError, pedigreeDbMetaError, metaSectionError], 0⟩
def tr471 : Tr := ⟨[.tokenBegin], 347⟩
def tr476 : Tr := ⟨[.tokenChar], 352⟩
def tr477 : Tr := ⟨[.tokenChar, .tokenEnd], 353⟩
def tr478 : Tr := ⟨[headerColumnsError, headerSectionError], 0⟩
def tr516 : Tr := ⟨[.headerLine, .newline], 623⟩
def tr517 : Tr := ⟨[headerSectionError], 0⟩
def tr525 : Tr := ⟨[.tokenBegin, .tokenChar], 399⟩
def tr526 : Tr := ⟨[.sampleName], 398⟩
def tr527 : Tr := ⟨[.sampleName, .headerLine, .newline], 623⟩
def tr528 : Tr := ⟨[.tokenChar], 399⟩
def tr529 : Tr := ⟨[chromError, bodySectionError], 0⟩
def tr530 : Tr := ⟨[.tokenEnd, .columnEnd], 401⟩
def tr531 : Tr := ⟨[.tokenChar], 619⟩
def tr532 : Tr := ⟨[.tokenChar], 620⟩
def tr533 : Tr := ⟨[posError, bodySectionError], 0⟩
def tr534 : Tr := ⟨[.tokenBegin], 402⟩
def tr535 : Tr := ⟨[.tokenBegin, .tokenChar], 403⟩
def tr536 : Tr := ⟨[.tokenChar], 403⟩
def tr537 : Tr := ⟨[.tokenEnd, .columnEnd], 404⟩
def tr538 : Tr := ⟨[idError, bodySectionError], 0⟩
def tr539 : Tr := ⟨[.tokenBegin, .tokenChar], 405⟩
def tr540 : Tr := ⟨[.tokenEnd, .columnEnd], 406⟩
def tr541 : Tr := ⟨[.tokenChar], 405⟩
def tr542 : Tr := ⟨[.tokenEnd], 404⟩
def tr543 : Tr := ⟨[refError, bodySectionError], 0⟩
def tr544 : Tr := ⟨[.tokenBegin, .tokenChar], 407⟩
def tr545 : Tr := ⟨[.tokenEnd, .columnEnd], 408⟩
def tr546 : Tr := ⟨[.tokenChar], 407⟩
def tr547 : Tr := ⟨[altError, bodySectionError], 0⟩
def tr548 : Tr := ⟨[.tokenBegin, .tokenChar], 409⟩
def tr549 : Tr := ⟨[.tokenBegin, .tokenChar], 618⟩
def tr550 : Tr := ⟨[.tokenBegin, .tokenChar], 567⟩
def tr551 : Tr := ⟨[.tokenBegin, .tokenChar], 569⟩
def tr552 : Tr := ⟨[.tokenBegin, .tokenChar], 594⟩
def tr553 : Tr := ⟨[.tokenBegin, .tokenChar], 606⟩
def tr554 : Tr := ⟨[.tokenEnd, .columnEnd], 410⟩
def tr555 : Tr := ⟨[.tokenEnd], 564⟩
def tr556 : Tr := ⟨[qualError, bodySectionError], 0⟩
def tr557 : Tr := ⟨[.tokenBegin, .tokenChar], 411⟩
def tr558 : Tr := ⟨[.tokenBegin, .tokenChar], 563⟩
def tr559 : Tr := ⟨[.tokenBegin, .tokenChar], 412⟩
def tr560 : Tr := ⟨[.tokenBegin, .tokenChar], 562⟩
def tr561 : Tr := ⟨[.tokenChar], 412⟩
def tr562 : Tr := ⟨[.tokenChar], 562⟩
def tr563 : Tr := ⟨[.tokenEnd, .columnEnd], 413⟩
def tr564 : Tr := ⟨[.tokenChar], 557⟩
def tr565 : Tr := ⟨[.tokenChar], 559⟩
def tr566 : Tr := ⟨[filterError, bodySectionError], 0⟩
def tr567 : Tr := ⟨[.tokenBegin], 414⟩
def tr568 : Tr := ⟨[.tokenBegin, .tokenChar], 556⟩
def tr569 : Tr := ⟨[.tokenBegin, .tokenChar], 415⟩
def tr571 : Tr := ⟨[.tokenChar], 415⟩
def tr572 : Tr := ⟨[.tokenEnd, .columnEnd], 416⟩
def tr573 : Tr := ⟨[.tokenEnd], 555⟩
def tr574 : Tr := ⟨[infoKeyError, infoError, bodySectionError], 0⟩
def tr575 : Tr := ⟨[.tokenBegin, .tokenChar], 417⟩
def tr576 : Tr := ⟨[.tokenBegin, .tokenChar], 554⟩
def tr577 : Tr := ⟨[.tokenBegin, .tokenChar], 418⟩
def tr578 : Tr := ⟨[.tokenBegin, .tokenChar], 433⟩
def tr579 : Tr := ⟨[.tokenBegin, .tokenChar], 442⟩
def tr580 : Tr := ⟨[.tokenBegin, .tokenChar], 465⟩
def tr581 : Tr := ⟨[.tokenBegin, .tokenChar], 476⟩
def tr582 : Tr := ⟨[.tokenBegin, .tokenChar], 483⟩
def tr583 : Tr := ⟨[.tokenBegin, .tokenChar], 491⟩
def tr584 : Tr := ⟨[.tokenBegin, .tokenChar], 497⟩
def tr585 : Tr := ⟨[.tokenBegin, .tokenChar], 504⟩
def tr586 : Tr := ⟨[.tokenBegin, .tokenChar], 519⟩
def tr587 : Tr := ⟨[.tokenBegin, .tokenChar], 524⟩
def tr588 : Tr := ⟨[.tokenBegin, .tokenChar], 543⟩
def tr589 : Tr := ⟨[.tokenChar], 417⟩
def tr590 : Tr := ⟨[.tokenChar], 418⟩
def tr591 : Tr := ⟨[.tokenEnd, .columnEnd], 419⟩
def tr592 : Tr := ⟨[.tokenEnd, .bodyLine, .newline], 624⟩
def tr593 : Tr := ⟨[.tokenEnd], 432⟩
def tr594 : Tr := ⟨[.tokenChar], 437⟩
def tr595 : Tr := ⟨[formatError, bodySectionError], 0⟩
def tr596 : Tr := ⟨[.tokenBegin, .tokenChar], 420⟩
def tr597 : Tr := ⟨[.tokenEnd, .columnEnd], 421⟩
def tr598 : Tr := ⟨[.tokenChar], 420⟩
def tr599 : Tr := ⟨[.tokenEnd], 419⟩
def tr600 : Tr := ⟨[genotypeError, sampleError, bodySectionError], 0⟩
def tr601 : Tr := ⟨[.tokenBegin, .tokenChar], 422⟩
def tr602 : Tr := ⟨[.tokenBegin, .tokenChar], 429⟩
def tr603 : Tr := ⟨[.tokenChar], 428⟩
def tr604 : Tr := ⟨[.tokenChar], 430⟩
def tr605 : Tr := ⟨[.tokenBegin, .tokenChar], 424⟩
def tr606 : Tr := ⟨[.tokenChar], 425⟩
def tr607 : Tr := ⟨[.tokenChar], 426⟩
def tr608 : Tr := ⟨[.tokenEnd], 427⟩
def tr609 : Tr := ⟨[.columnEnd], 401⟩
def tr610 : Tr := ⟨[.tokenChar], 422⟩
def tr611 : Tr := ⟨[.tokenChar], 429⟩
def tr612 : Tr := ⟨[sampleError, bodySectionError], 0⟩
def tr613 : Tr := ⟨[.tokenChar], 431⟩
def tr614 : Tr := ⟨[.tokenChar], 434⟩
def tr615 : Tr := ⟨[.tokenChar], 435⟩
def tr616 : Tr := ⟨[.tokenChar], 436⟩
def tr617 : Tr := ⟨[.tokenChar], 439⟩
def tr618 : Tr := ⟨[infoValueError, infoError, bodySectionError], 0⟩
def tr619 : Tr := ⟨[.tokenChar], 438⟩
def tr620 : Tr := ⟨[info1000gError, infoKeyError, infoError, bodySectionError], 0⟩
def tr621 : Tr := ⟨[.tokenChar], 440⟩
def tr622 : Tr := ⟨[info1000gError, infoError, bodySectionError], 0⟩
def tr623 : Tr := ⟨[.tokenChar], 441⟩
def tr624 : Tr := ⟨[.tokenChar], 443⟩
def tr625 : Tr := ⟨[.tokenChar], 447⟩
def tr626 : Tr := ⟨[.tokenChar], 451⟩
def tr627 : Tr := ⟨[.tokenChar], 461⟩
def tr628 : Tr := ⟨[.tokenChar], 444⟩
def tr629 : Tr := ⟨[infoAaError, infoError, bodySectionError], 0⟩
def tr630 : Tr := ⟨[.tokenChar], 445⟩
def tr631 : Tr := ⟨[.tokenChar], 446⟩
def tr632 : Tr := ⟨[.tokenChar], 448⟩
def tr633 : Tr := ⟨[infoAcError, infoError, bodySectionError], 0⟩
def tr634 : Tr := ⟨[.tokenChar], 449⟩
def tr635 : Tr := ⟨[.tokenChar], 450⟩
def tr636 : Tr := ⟨[.tokenChar], 452⟩
def tr637 : Tr := ⟨[infoAfError, infoError, bodySectionError], 0⟩
def tr638 : Tr := ⟨[.tokenChar], 453⟩
def tr639 : Tr := ⟨[.tokenChar], 454⟩
def tr640 : Tr := ⟨[.tokenChar], 460⟩
def tr641 : Tr := ⟨[.tokenChar], 455⟩
def tr642 : Tr := ⟨[.tokenChar], 457⟩
def tr643 : Tr := ⟨[.tokenChar], 456⟩
def tr644 : Tr := ⟨[.tokenChar], 458⟩
def tr645 : Tr := ⟨[.tokenChar], 459⟩
def tr646 : Tr := ⟨[.tokenChar], 462⟩
def tr647 : Tr := ⟨[infoAnError, infoError, bodySectionError], 0⟩
def tr648 : Tr := ⟨[.tokenChar], 463⟩
def tr649 : Tr := ⟨[.tokenChar], 464⟩
def tr650 : Tr := ⟨[.tokenChar], 466⟩
def tr651 : Tr := ⟨[.tokenChar], 467⟩
def tr652 : Tr := ⟨[infoBqError, infoError, bodySectionError], 0⟩
def tr653 : Tr := ⟨[.tokenChar], 468⟩
def tr654 : Tr := ⟨[.tokenChar], 469⟩
def tr655 : Tr := ⟨[.tokenChar], 475⟩
def tr656 : Tr := ⟨[.tokenChar], 470⟩
def tr657 : Tr := ⟨[.tokenChar], 472⟩
def tr658 : Tr := ⟨[.tokenChar], 471⟩
def tr659 : Tr := ⟨[.tokenChar], 473⟩
def tr660 : Tr := ⟨[.tokenChar], 474⟩
def tr661 : Tr := ⟨[.tokenChar], 477⟩
def tr662 : Tr := ⟨[.tokenChar], 478⟩
def tr663 : Tr := ⟨[.tokenChar], 479⟩
def tr664 : Tr := ⟨[.tokenChar], 480⟩
def tr665 : Tr := ⟨[.tokenChar], 481⟩
def tr666 : Tr := ⟨[infoCigarError, infoError, bodySectionError], 0⟩
def tr667 : Tr := ⟨[.tokenChar], 482⟩
def tr668 : Tr := ⟨[.tokenChar], 484⟩
def tr669 : Tr := ⟨[.tokenChar], 487⟩
def tr670 : Tr := ⟨[infoDbError, infoKeyError, infoError, bodySectionError], 0⟩
def tr671 : Tr := ⟨[.tokenChar], 485⟩
def tr672 : Tr := ⟨[infoDbError, infoError, bodySectionError], 0⟩
def tr673 : Tr := ⟨[.tokenChar], 486⟩
def tr674 : Tr := ⟨[.tokenChar], 488⟩
def tr675 : Tr := ⟨[infoDpError, infoError, bodySectionError], 0⟩
def tr676 : Tr := ⟨[.tokenChar], 489⟩
def tr677 : Tr := ⟨[.tokenChar], 490⟩
def tr678 : Tr := ⟨[.tokenChar], 492⟩
def tr679 : Tr := ⟨[.tokenChar], 493⟩
def tr680 : Tr := ⟨[.tokenChar], 494⟩
def tr681 : Tr := ⟨[infoEndError, infoError, bodySectionError], 0⟩
def tr682 : Tr := ⟨[.tokenChar], 495⟩
def tr683 : Tr := ⟨[.tokenChar], 496⟩
def tr684 : Tr := ⟨[.tokenChar], 498⟩
def tr685 : Tr := ⟨[.tokenChar], 501⟩
def tr686 : Tr := ⟨[infoH2Error, infoKeyError, infoError, bodySectionError], 0⟩
def tr687 : Tr := ⟨[.tokenChar], 499⟩
def tr688 : Tr := ⟨[infoH2Error, infoError, bodySectionError], 0⟩
def tr689 : Tr := ⟨[.tokenChar], 500⟩
def tr690 : Tr := ⟨[infoH3Error, infoKeyError, infoError, bodySectionError], 0⟩
def tr691 : Tr := ⟨[.tokenChar], 502⟩
def tr692 : Tr := ⟨[infoH3Error, infoError, bodySectionError], 0⟩
def tr693 : Tr := ⟨[.tokenChar], 503⟩
def tr694 : Tr := ⟨[.tokenChar], 505⟩
def tr695 : Tr := ⟨[.tokenChar], 506⟩
def tr696 : Tr := ⟨[.tokenChar], 510⟩
def tr697 : Tr := ⟨[.tokenChar], 507⟩
def tr698 : Tr := ⟨[infoMq0Error, infoError, bodySectionError], 0⟩
def tr699 : Tr := ⟨[.tokenChar], 508⟩
def tr700 : Tr := ⟨[.tokenChar], 509⟩
def tr701 : Tr := ⟨[infoMqError, infoError, bodySectionError], 0⟩
def tr702 : Tr := ⟨[.tokenChar], 511⟩
def tr703 : Tr := ⟨[.tokenChar], 512⟩
def tr704 : Tr := ⟨[.tokenChar], 518⟩
def tr705 : Tr := ⟨[.tokenChar], 513⟩
def tr706 : Tr := ⟨[.tokenChar], 515⟩
def tr707 : Tr := ⟨[.tokenChar], 514⟩
def tr708 : Tr := ⟨[.tokenChar], 516⟩
def tr709 : Tr := ⟨[.tokenChar], 517⟩
def tr710 : Tr := ⟨[.tokenChar], 520⟩
def tr711 : Tr := ⟨[.tokenChar], 521⟩
def tr712 : Tr := ⟨[infoNsError, infoError, bodySectionError], 0⟩
def tr713 : Tr := ⟨[.tokenChar], 522⟩
def tr714 : Tr := ⟨[.tokenChar], 523⟩
def tr715 : Tr := ⟨[.tokenChar], 525⟩
def tr716 : Tr := ⟨[.tokenChar], 535⟩
def tr717 : Tr := ⟨[.tokenChar], 526⟩
def tr718 : Tr := ⟨[infoSbError, infoError, bodySectionError], 0⟩
def tr719 : Tr := ⟨[.tokenChar], 527⟩
def tr720 : Tr := ⟨[.tokenChar], 528⟩
def tr721 : Tr := ⟨[.tokenChar], 534⟩
def tr722 : Tr := ⟨[.tokenChar], 529⟩
def tr723 : Tr := ⟨[.tokenChar], 531⟩
def tr724 : Tr := ⟨[.tokenChar], 530⟩
def tr725 : Tr := ⟨[.tokenChar], 532⟩
def tr726 : Tr := ⟨[.tokenChar], 533⟩
def tr727 : Tr := ⟨[.tokenChar], 536⟩
def tr728 : Tr := ⟨[.tokenChar], 537⟩
def tr729 : Tr := ⟨[.tokenChar], 538⟩
def tr730 : Tr := ⟨[.tokenChar], 539⟩
def tr731 : Tr := ⟨[.tokenChar], 540⟩
def tr732 : Tr := ⟨[infoSomaticError, infoKeyError, infoError, bodySectionError], 0⟩
def tr733 : Tr := ⟨[.tokenChar], 541⟩
def tr734 : Tr := ⟨[infoSomaticError, infoError, bodySectionError], 0⟩
def tr735 : Tr := ⟨[.tokenChar], 542⟩
def tr736 : Tr := ⟨[.tokenChar], 544⟩
def tr737 : Tr := ⟨[.tokenChar], 545⟩
def tr738 : Tr := ⟨[.tokenChar], 546⟩
def tr739 : Tr := ⟨[.tokenChar], 547⟩
def tr740 : Tr := ⟨[.tokenChar], 548⟩
def tr741 : Tr := ⟨[.tokenChar], 549⟩
def tr742 : Tr := ⟨[.tokenChar], 550⟩
def tr743 : Tr := ⟨[.tokenChar], 551⟩
def tr744 : Tr := ⟨[infoValidatedError, infoKeyError, infoError, bodySectionError], 0⟩
def tr745 : Tr := ⟨[.tokenChar], 552⟩
def tr746 : Tr := ⟨[infoValidatedError, infoError, bodySectionError], 0⟩
def tr747 : Tr := ⟨[.tokenChar], 553⟩
def tr748 : Tr := ⟨[.tokenChar], 558⟩
def tr749 : Tr := ⟨[.tokenChar], 560⟩
def tr750 : Tr := ⟨[.tokenChar], 561⟩
def tr751 : Tr := ⟨[.tokenBegin, .tokenChar], 565⟩
def tr752 : Tr := ⟨[.tokenChar], 566⟩
def tr753 : Tr := ⟨[.tokenChar], 568⟩
def tr754 : Tr := ⟨[.tokenChar], 567⟩
def tr755 : Tr := ⟨[.tokenChar], 409⟩
def tr756 : Tr := ⟨[.tokenChar], 569⟩
def tr757 : Tr := ⟨[.tokenChar], 570⟩
def tr758 : Tr := ⟨[.tokenChar], 582⟩
def tr759 : Tr := ⟨[.tokenChar], 571⟩
def tr760 : Tr := ⟨[.tokenChar], 577⟩
def tr761 : Tr := ⟨[.tokenChar], 572⟩
def tr762 : Tr := ⟨[.tokenChar], 573⟩
def tr763 : Tr := ⟨[.tokenChar], 574⟩
def tr764 : Tr := ⟨[.tokenChar], 575⟩
def tr765 : Tr := ⟨[.tokenChar], 576⟩
def tr766 : Tr := ⟨[.tokenChar], 578⟩
def tr767 : Tr := ⟨[.tokenChar], 579⟩
def tr768 : Tr := ⟨[.tokenChar], 580⟩
def tr769 : Tr := ⟨[.tokenChar], 581⟩
def tr770 : Tr := ⟨[.tokenChar], 583⟩
def tr771 : Tr := ⟨[.tokenChar], 589⟩
def tr772 : Tr := ⟨[.tokenChar], 584⟩
def tr773 : Tr := ⟨[.tokenChar], 585⟩
def tr774 : Tr := ⟨[.tokenChar], 586⟩
def tr775 : Tr := ⟨[.tokenChar], 587⟩
def tr776 : Tr := ⟨[.tokenChar], 588⟩
def tr777 : Tr := ⟨[.tokenChar], 590⟩
def tr778 : Tr := ⟨[.tokenChar], 591⟩
def tr779 : Tr := ⟨[.tokenChar], 592⟩
def tr780 : Tr := ⟨[.tokenChar], 593⟩
def tr781 : Tr := ⟨[.tokenChar], 595⟩
def tr782 : Tr := ⟨[.tokenChar], 601⟩
def tr783 : Tr := ⟨[.tokenChar], 596⟩
def tr784 : Tr := ⟨[.tokenChar], 597⟩
def tr785 : Tr := ⟨[.tokenChar], 598⟩
def tr786 : Tr := ⟨[.tokenChar], 599⟩
def tr787 : Tr := ⟨[.tokenChar], 600⟩
def tr788 : Tr := ⟨[.tokenChar], 565⟩
def tr789 : Tr := ⟨[.tokenChar], 602⟩
def tr790 : Tr := ⟨[.tokenChar], 603⟩
def tr791 : Tr := ⟨[.tokenChar], 604⟩
def tr792 : Tr := ⟨[.tokenChar], 605⟩
def tr793 : Tr := ⟨[.tokenChar], 607⟩
def tr794 : Tr := ⟨[.tokenChar], 613⟩
def tr795 : Tr := ⟨[.tokenChar], 608⟩
def tr796 : Tr := ⟨[.tokenChar], 609⟩
def tr797 : Tr := ⟨[.tokenChar], 610⟩
def tr798 : Tr := ⟨[.tokenChar], 611⟩
def tr799 : Tr := ⟨[.tokenChar], 612⟩
def tr800 : Tr := ⟨[.tokenChar], 614⟩
def tr801 : Tr := ⟨[.tokenChar], 615⟩
def tr802 : Tr := ⟨[.tokenChar], 616⟩
def tr803 : Tr := ⟨[.tokenChar], 617⟩
def tr805 : Tr := ⟨[.newline, .gotoMetaSection], 625⟩
def tr807 : Tr := ⟨[.newline, .gotoBodySection], 626⟩
def tr808 : Tr := ⟨[headerSectionError, chromError, bodySectionError], 0⟩
def tr809 : Tr := ⟨[.tokenBegin, .tokenChar], 400⟩

end VcfValidator.Scanner
