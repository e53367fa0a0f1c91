import BadgeEntry.Client.Steps
import BadgeEntry.CommandLine.Run
import BadgeEntry.Main
import BadgeEntry.Proofs.World.Visit
import BadgeEntry.Proofs.Site.Sendable
import BadgeEntry.Proofs.Url.Below
import BadgeEntry.Proofs.Url.Requested
import BadgeEntry.Proofs.Client.Course
import BadgeEntry.Proofs.Site.Pages
import BadgeEntry.Proofs.Client.Made
import BadgeEntry.Proofs.Client.Protocol
import BadgeEntry.Proofs.Client.Outcome
import BadgeEntry.Proofs.Client.Stepwise
import BadgeEntry.Proofs.Client.Permission
import BadgeEntry.Proofs.Form.RoundTrip
import BadgeEntry.Proofs.Client.Runs
import BadgeEntry.Proofs.Listing.Public
import BadgeEntry.Proofs.Client.Sent
import BadgeEntry.Proofs.Client.Confinement
import BadgeEntry.Proofs.Client.Introduction
import BadgeEntry.Proofs.Client.Scope
import BadgeEntry.Proofs.Text.Percent
import BadgeEntry.Proofs.Url.Hosts
import BadgeEntry.Proofs.Url.Segments
import BadgeEntry.Proofs.Client.SelfRedirect
import BadgeEntry.Proofs.Client.Endpoints
import BadgeEntry.Proofs.Listing.Cache
import BadgeEntry.Proofs.Listing.Loading
import BadgeEntry.Proofs.Listing.Turns
import BadgeEntry.Proofs.Listing.Downloads
import BadgeEntry.Proofs.Listing.Limit
import BadgeEntry.Proofs.Form.WrittenObject
import BadgeEntry.Proofs.Client.Checks
import BadgeEntry.Proofs.Client.Submittable
import BadgeEntry.Proofs.Client.Replies
import BadgeEntry.Proofs.CommandLine.Writing
import BadgeEntry.Proofs.Form.Leading
import BadgeEntry.Proofs.Json.Integers
import BadgeEntry.Proofs.Json.ValueTexts
import BadgeEntry.Proofs.Form.Integers
import BadgeEntry.Proofs.Form.Histories
import BadgeEntry.Proofs.Pattern.Following
import BadgeEntry.Proofs.EditPage.Extraction
import BadgeEntry.Proofs.EditPage.Rendered
import BadgeEntry.Proofs.Session.Rotation
import BadgeEntry.Proofs.Client.TypedRoots
import BadgeEntry.Proofs.Listing.Separator
import BadgeEntry.Proofs.Listing.Languages
