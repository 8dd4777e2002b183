import VcfValidator.Recovery
import VcfValidator.Tokens
import VcfValidator.Lines
import VcfValidator.MetaLines
import VcfValidator.Order
import VcfValidator.HeaderLine
import VcfValidator.LineStarts
import VcfValidator.Acceptance
import VcfValidator.Records
import VcfValidator.Checks
import VcfValidator.Columns
import VcfValidator.Ploidy
import VcfValidator.MetaFields
import VcfValidator.InfoKeys
import VcfValidator.FieldWalks
import VcfValidator.SampleTokens
import VcfValidator.BodyGrammar
import VcfValidator.BodyClasses
import VcfValidator.ValueReads
import VcfValidator.BodyColumns
import VcfValidator.AltColumn
import VcfValidator.InfoColumn
import VcfValidator.BodyLine
